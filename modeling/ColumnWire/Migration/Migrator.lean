import ColumnWire.Migration.Fault
import ColumnWire.Migration.Plan
import ColumnWire.Migration.Registry

/-!
# The migrator

Applied migrations are recorded in a table whose rows cancel each other: applying adds
a row, undoing adds the same row with the opposite sign. A second table serves as a
lock: whoever can add a column to it holds the lock until the column is gone. The lock
is held while migrations are applied or undone, and given back on every way out.
-/
namespace ColumnWire

/-- Known migrations and the tables that record them. -/
structure Migrator where
  registry : Registry
  table : String := "ch_migrations"
  locksTable : String := "ch_migration_locks"
  /-- Whether a migration whose step fails is left unrecorded. -/
  applyOnSuccess : Bool := false
deriving Repr, DecidableEq, Inhabited

namespace Migrator

/-- A plan that may fail. -/
abbrev Attempt := ExceptT MigrateError Plan

/-- Make a call whose failure ends the attempt. -/
def require (c : Call) : Attempt c.Answer := ExceptT.adapt .database (Plan.call c)

/-- What comes of something that may fail. -/
def outcome {α : Type} (p : ExceptT Error Plan α) : Attempt (Except Error α) :=
  ExceptT.mk (p.run.bind fun r => .done (.ok r))

/-! ## Tables -/

/-- Make both tables, unless they are there. -/
def init (m : Migrator) : Attempt Unit := do
  require (.exec (s!"CREATE TABLE IF NOT EXISTS {m.table} (name String, group_id Int64, " ++
    "migrated_at DateTime, sign Int8) ENGINE = CollapsingMergeTree(sign) ORDER BY name"))
  require (.exec (s!"CREATE TABLE IF NOT EXISTS {m.locksTable} (a Int8) " ++
    "ENGINE = MergeTree() ORDER BY tuple()"))

/-- Drop both tables and make them again. -/
def reset (m : Migrator) : Attempt Unit := do
  require (.exec s!"DROP TABLE IF EXISTS {m.table}")
  require (.exec s!"DROP TABLE IF EXISTS {m.locksTable}")
  m.init

/-- The column that makes the lock. -/
def lockColumn : String := "lock"

def lockSql (m : Migrator) : String := s!"ALTER TABLE {m.locksTable} ADD COLUMN {lockColumn} Int8"

def unlockSql (m : Migrator) : String := s!"ALTER TABLE {m.locksTable} DROP COLUMN {lockColumn}"

/-- Take the lock. -/
def lock (m : Migrator) : Attempt Unit := ExceptT.adapt .alreadyLocked (Plan.call (.exec m.lockSql))

/-- Whether a text occurs in another one. -/
def occurs (part : List Char) : List Char → Bool
  | [] => part = []
  | c :: cs => part.isPrefixOf (c :: cs) || occurs part cs

/-- Whether a failure says that there is no lock. -/
def saysUnlocked (e : Error) : Bool := occurs "Cannot find column".toList e.message.toList

/-- Give the lock back. It does not matter if nobody holds it. -/
def unlock (m : Migrator) : Attempt Unit := do
  match ← outcome (Plan.call (.exec m.unlockSql)) with
  | .ok () => return
  | .error e => if saysUnlocked e then return else throw (.alreadyUnlocked e)

/-! ## Records -/

/-- The cells of a column of a table of migrations. -/
def cells {α : Type} (b : Block) (name type : String) (ofType : ColumnData → Option α) :
    Except LayoutFault α :=
  match b.byName? name with
  | none => .error (.missingColumn name)
  | some c =>
    match ofType c.data with
    | none => .error (.wrongType name type)
    | some cells => .ok cells

/-- The records of a block: names, groups and moments, in columns of their own types. -/
def readRecords (b : Block) : Except LayoutFault (List Migration) := do
  let names ← cells b "name" "String" ColumnData.strings?
  let groups ← cells b "group_id" "Int64" (ColumnData.scalars? .int64)
  let moments ← cells b "migrated_at" "DateTime" (ColumnData.scalars? .dateTime)
  return (names.toList.zip (groups.toList.zip moments.toList)).map fun (name, group, moment) =>
    { name, group := Int64.ofNat group, appliedAt := some moment }

/-- The records of all blocks. -/
def readAll : List Block → Except LayoutFault (List Migration)
  | [] => .ok []
  | b :: bs => do return (← readRecords b) ++ (← readAll bs)

def statusSql (m : Migrator) : String :=
  s!"SELECT name, group_id, migrated_at FROM {m.table} FINAL WHERE sign > 0"

/-- The recorded migrations. -/
def records (m : Migrator) : Attempt (List Migration) := do
  let blocks ← require (.query m.statusSql)
  match readAll blocks with
  | .ok ms => return ms
  | .error fault => throw (.layout fault)

/-- A migration with what the records say about it; the last record of its name counts. -/
def withRecord (records : List Migration) (m : Migration) : Migration :=
  match records.reverse.find? (·.name = m.name) with
  | some r => { m with group := r.group, appliedAt := r.appliedAt }
  | none => m

/-- The known migrations with what is recorded about them, and the number of the last group on
record. -/
def status (m : Migrator) : Attempt (List Migration × Int64) := do
  let records ← m.records
  return (m.registry.sorted.map (withRecord records), Migrations.lastGroupId records)

/-- The block with one record. -/
def markBlock (m : Migration) (second : Nat) (sign : Int) : Block where
  rows := 1
  columns := #[
    ⟨"name", "String", .strings #[m.name]⟩,
    ⟨"group_id", "Int64", .scalars .int64 #[m.group.toBitVec]⟩,
    ⟨"migrated_at", "DateTime", .scalars .dateTime #[BitVec.ofNat 32 second]⟩,
    ⟨"sign", "Int8", .scalars .int8 #[BitVec.ofInt 8 sign]⟩]

def insertSql (m : Migrator) : String :=
  s!"INSERT INTO {m.table} (name, group_id, migrated_at, sign) VALUES"

/-- Add a record. The moment has to fit into 32 bits. -/
def insertMark (m : Migrator) (migration : Migration) (second sign : Int) : Attempt Unit :=
  if 0 ≤ second ∧ second < 4294967296 then
    require (.insert m.insertSql (markBlock migration second.toNat sign))
  else throw (.layout (.momentOutOfRange second))

/-- Record that a migration is applied now. -/
def markApplied (m : Migrator) (migration : Migration) : Attempt Migration := do
  let second ← Plan.now
  let migration := { migration with appliedAt := some second }
  m.insertMark migration second 1
  return migration

/-- Record that a migration is not applied any more. -/
def markUnapplied (m : Migrator) (migration : Migration) : Attempt Unit := do
  match migration.appliedAt with
  | some second => m.insertMark migration second (-1)
  | none => m.insertMark migration (← Plan.now) (-1)

/-! ## Applying and undoing -/

/-- Run statements up to the first that fails. -/
def execAll : List String → ExceptT Error Plan Unit
  | [] => pure ()
  | sql :: rest => do
    Plan.call (.exec sql)
    execAll rest

/-- Run a step, if there is one. -/
def runStep : Option Step → ExceptT Error Plan Unit
  | none => pure ()
  | some (.sql text) => execAll (Statement.split text)
  | some (.custom label) => Plan.call (.custom label)

/-- Run the step of a migration and mark it. The mark is left out if the step fails and only
success counts; the failure is reported either way. -/
def perform {α : Type} (m : Migrator) (name : String) (step : Option Step) (mark : Attempt α) :
    Attempt α := do
  match ← outcome (runStep step) with
  | .ok () => mark
  | .error e =>
    if m.applyOnSuccess then throw (.step name e)
    else
      let _ ← mark
      throw (.step name e)

/-- Apply migrations in order, as members of one group. -/
def applyAll (m : Migrator) (nop : Bool) (group : Int64) : List Migration → Attempt (List Migration)
  | [] => return []
  | u :: us => do
    let u := { u with group }
    let marked ← m.perform u.name (if nop then none else u.up) (m.markApplied u)
    return marked :: (← applyAll m nop group us)

/-- Undo migrations in order. -/
def undoAll (m : Migrator) (nop : Bool) : List Migration → Attempt Unit
  | [] => return
  | u :: us => do
    m.perform u.name (if nop then none else u.down) (m.markUnapplied u)
    undoAll m nop us

/-- Apply what is not applied, under the lock. Numbers of groups have 64 bits, and the smallest one follows
the largest one; a program that checks for overflow would stop there instead, and leave the lock taken. -/
def migrateLocked (m : Migrator) (nop : Bool) : Attempt MigrationGroup := do
  let (known, last) ← m.status
  match Migrations.unapplied known with
  | [] => return {}
  | pending => return ⟨last + 1, ← m.applyAll nop (last + 1) pending⟩

/-- Undo the last group, under the lock. -/
def rollbackLocked (m : Migrator) (nop : Bool) : Attempt MigrationGroup := do
  let (known, _) ← m.status
  let group := Migrations.lastGroup known
  m.undoAll nop group.members.reverse
  return group

/-- Do something under the lock. The result does not depend on whether the lock can be given back. -/
def locked {α : Type} (m : Migrator) (body : Attempt α) : Attempt α := do
  if m.registry.migrations.isEmpty then throw .noMigrations
  else
    m.lock
    ExceptT.mk (body.run.bind fun r => m.unlock.run.bind fun _ => .done r)

/-- Apply all migrations that are not applied, as one new group. With `nop` their steps are left
out. -/
def migrate (m : Migrator) (nop : Bool) : Attempt MigrationGroup := m.locked (m.migrateLocked nop)

/-- Undo the last group, the last migration first. -/
def rollback (m : Migrator) (nop : Bool) : Attempt MigrationGroup := m.locked (m.rollbackLocked nop)

end Migrator

end ColumnWire

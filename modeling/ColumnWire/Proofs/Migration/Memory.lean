import ColumnWire.Proofs.Migration.Deed

/-!
# A database in memory

The rows of one table and whether the lock is taken are all that this database remembers. It
keeps the table of a migrator and locks, so that what is asked of databases is not too much.
-/
namespace ColumnWire

open Plan MarkRow

/-- What is remembered. -/
structure Memory where
  marks : List MarkRow := []
  locked : Bool := false
deriving Repr, DecidableEq

namespace Block

variable {b : Block} {rows : List MarkRow}

/-- The rows that a block carries. -/
def markRows (b : Block) : List MarkRow :=
  let names := (b.byName? "name").bind (·.data.strings?)
  let groups := (b.byName? "group_id").bind (·.data.scalars? .int64)
  let moments := (b.byName? "migrated_at").bind (·.data.scalars? .dateTime)
  let signs := (b.byName? "sign").bind (·.data.scalars? .int8)
  match names, groups, moments, signs with
  | some names, some groups, some moments, some signs =>
    (names.toList.zip (groups.toList.zip (moments.toList.zip signs.toList))).map
      fun (name, group, moment, sign) =>
        { name, group := .ofNat group, second := .ofNat moment, sign := .ofNat sign }
  | _, _, _, _ => []

theorem Carries.markRows_eq (h : b.Carries rows) : b.markRows = rows := by
  unfold markRows
  rw [h.names, h.groups, h.moments, h.signs]
  simp only [List.zip_map', List.map_map]
  refine (List.map_congr_left fun row _ => ?_).trans (List.map_id rows)
  simp

/-- The block that shows rows. -/
def ofRows (rows : List MarkRow) : Block where
  rows := rows.length
  columns := #[
    ⟨"name", "String", .strings (rows.map (·.name)).toArray⟩,
    ⟨"group_id", "Int64", .scalars .int64 (rows.map (·.group.toBitVec)).toArray⟩,
    ⟨"migrated_at", "DateTime", .scalars .dateTime (rows.map (·.second.toBitVec)).toArray⟩]

theorem shows_ofRows (rows : List MarkRow) : (ofRows rows).Shows rows where
  names := rfl
  groups := Migrator.scalars?_map .int64 (fun row : MarkRow => row.group.toBitVec) rows
  moments := Migrator.scalars?_map .dateTime (fun row : MarkRow => row.second.toBitVec) rows

end Block

namespace Migrator

variable {m : Migrator}

/-- The failure of a server. -/
def refusal (code : Int32) (message : String) : Error := .server ⟨⟨code, "DB::Exception", message, ""⟩, []⟩

/-- Add the column that makes the lock, or drop it; other statements have no effect. -/
def memoryExec (m : Migrator) (sql : String) (s : Memory) : Except Error Unit × Memory :=
  if sql = m.lockSql then
    if s.locked then (.error (refusal 44 "Cannot add column: it already exists"), s)
    else (.ok (), { s with locked := true })
  else if sql = m.unlockSql then
    if s.locked then (.ok (), { s with locked := false })
    else (.error (refusal 10 "Cannot find column"), s)
  else (.ok (), s)

/-- A database in memory with the tables of one migrator. -/
def memory (m : Migrator) : Database Memory where
  answer
    | .exec sql, s => m.memoryExec sql s
    | .insert sql b, s =>
      (.ok (), if sql = m.insertSql then { s with marks := s.marks ++ b.markRows } else s)
    | .query sql, s => (.ok (if sql = m.statusSql then [.ofRows (live s.marks)] else []), s)
    | .custom _, s => (.ok (), s)
  second _ := 0

theorem marks_memoryExec (sql : String) (s : Memory) : (m.memoryExec sql s).2.marks = s.marks := by
  unfold memoryExec
  split
  · split <;> rfl
  · split
    · split <;> rfl
    · rfl

theorem memoryExec_failed {sql : String} {s : Memory} {e : Error}
    (h : (m.memoryExec sql s).1 = .error e) : (m.memoryExec sql s).2 = s := by
  unfold memoryExec at h ⊢
  grind

/-- A call that fails changes nothing. -/
theorem memory_failed {call : Call} {s : Memory} {e : Error}
    (h : (m.memory.answer call s).1 = .error e) : (m.memory.answer call s).2 = s := by
  cases call with
  | exec sql => exact memoryExec_failed h
  | insert sql b => cases h
  | query sql => cases h
  | custom label => rfl

/-- The one ends with the type of the column, the other with its name. -/
theorem unlockSql_ne_lockSql (m : Migrator) : m.unlockSql ≠ m.lockSql := by
  intro h
  delta lockSql unlockSql lockColumn at h
  have hlast := congrArg (fun sql : String => sql.toList.getLast?) h
  simp only [String.toList_append, List.getLast?_append] at hlast
  exact absurd (show some 'k' = some '8' from hlast) (by decide)

theorem memoryExec_lock {s : Memory} (h : (m.memoryExec m.lockSql s).1 = .ok ()) :
    s.locked = false ∧ (m.memoryExec m.lockSql s).2.locked = true := by
  rw [memoryExec, if_pos rfl] at h ⊢
  cases hlocked : s.locked <;> simp [hlocked] at h ⊢

theorem memoryExec_unlock {s : Memory} (h : (m.memoryExec m.unlockSql s).1 = .ok ()) :
    s.locked = true ∧ (m.memoryExec m.unlockSql s).2.locked = false := by
  rw [memoryExec, if_neg m.unlockSql_ne_lockSql, if_pos rfl] at h ⊢
  cases hlocked : s.locked <;> simp [hlocked] at h ⊢

/-- Neither a status nor a mark nor a step that leaves the lock alone touches it. -/
theorem locked_memory {call : Call} (hlock : call ≠ .exec m.lockSql)
    (hunlock : call ≠ .exec m.unlockSql) (s : Memory) :
    (m.memory.answer call s).2.locked = s.locked := by
  cases call with
  | exec sql =>
    have hl : sql ≠ m.lockSql := fun h => hlock (h ▸ rfl)
    have hu : sql ≠ m.unlockSql := fun h => hunlock (h ▸ rfl)
    show (m.memoryExec sql s).2.locked = s.locked
    rw [memoryExec, if_neg hl, if_neg hu]
  | insert sql b =>
    simp only [memory]
    split <;> rfl
  | query sql => rfl
  | custom label => rfl

theorem memory_keeps (m : Migrator) : m.Keeps m.memory Memory.marks where
  failed _ _ _ h := congrArg Memory.marks (memory_failed h)
  inserted b rows s hrows _ := by
    simp only [memory, ↓reduceIte]
    rw [hrows.markRows_eq]
  shown blocks s h := by
    simp only [memory, ↓reduceIte] at h ⊢
    cases h
    exact ⟨trivial, [live s.marks], .cons (Block.shows_ofRows _) .nil, by simp⟩
  locking sql _ s := marks_memoryExec sql s
  steps call h s := by
    obtain ⟨step, hcall⟩ := exists_step h
    match step with
    | some (.sql text) =>
      obtain ⟨sql, -, rfl⟩ := List.mem_map.mp hcall
      exact marks_memoryExec sql s
    | some (.custom label) =>
      obtain rfl := List.mem_singleton.mp hcall
      rfl

theorem memory_locks (m : Migrator)
    (hapart : ∀ call ∈ m.registry.calls, call ≠ .exec m.lockSql ∧ call ≠ .exec m.unlockSql) :
    m.Locks m.memory Memory.locked where
  failed _ _ _ h := congrArg Memory.locked (memory_failed h)
  taken _ h := memoryExec_lock h
  given _ h := memoryExec_unlock h
  deeds call hdeed s := by
    rcases hdeed with rfl | ⟨b, rfl⟩ | hstep
    · exact locked_memory (fun h => by cases h) (fun h => by cases h) s
    · exact locked_memory (fun h => by cases h) (fun h => by cases h) s
    · exact locked_memory (hapart call hstep).1 (hapart call hstep).2 s
  apart := hapart

end Migrator

/-- Two migrations: one that has statements both ways, and one whose step does not work. -/
def Registry.brittle : Registry where
  migrations := [
    { name := "1_orders", up := some (.sql "CREATE TABLE orders"), down := some (.sql "DROP TABLE orders") },
    { name := "2_filling", up := some (.custom "fill") }]

theorem Registry.brittle_calls :
    Registry.brittle.calls =
      [.exec "CREATE TABLE orders", .exec "DROP TABLE orders", .custom "fill"] := by
  decide

theorem Registry.brittle_sorted : Registry.brittle.sorted = Registry.brittle.migrations :=
  List.mergeSort_of_pairwise (by decide)

theorem Registry.brittle_distinct : Registry.brittle.Distinct where
  distinct := by decide
  countable := by decide

/-- A migrator that knows these two. -/
def Migrator.brittle : Migrator := { registry := .brittle }

/-- Two migrations without steps, of which the first one is registered with a group. -/
def Registry.preset : Registry where
  migrations := [{ name := "001_a", group := 5 }, { name := "002_b" }]

theorem Registry.preset_sorted : Registry.preset.sorted = Registry.preset.migrations :=
  List.mergeSort_of_pairwise (by decide)

theorem Registry.preset_distinct : Registry.preset.Distinct where
  distinct := by decide
  countable := by decide

/-- A migrator that knows these two. -/
def Migrator.preset : Migrator := { registry := .preset }

end ColumnWire

import ColumnWire.Calendar
import ColumnWire.Directory
import ColumnWire.Migration.Statement
import ColumnWire.Text.Described

/-!
# Migrations

A migration has a name and may know how to be applied and how to be undone. Those that
were applied together form a group; groups are numbered from one on, and zero stands
for a migration that is not applied.
-/
namespace ColumnWire

/-- What applies or undoes a migration. -/
inductive Step where
  /-- The statements of a text, one after another. -/
  | sql (text : String)
  /-- Something that the surrounding program knows by its label. It is one call here; which calls it makes
  itself is left to whoever answers that one. -/
  | custom (label : String)
deriving Repr, DecidableEq, Inhabited

/-- A migration and what is known about it. -/
structure Migration where
  name : String
  group : Int64 := 0
  /-- The second at which it was applied. -/
  appliedAt : Option Int := none
  up : Option Step := none
  down : Option Step := none
deriving Repr, DecidableEq, Inhabited

namespace Migration

/-- Whether a migration is applied. -/
def isApplied (m : Migration) : Bool := 0 < m.group

/-- All that is known about a migration, in words. -/
def describe (m : Migration) : String :=
  Described.record "Migration" [("name", Quoted.encode m.name), ("group_id", toString m.group.toInt),
    ("migrated_at", Described.option (m.appliedAt.map fun second => Calendar.momentText "T" second ++ "Z")),
    ("up", toString m.up.isSome), ("down", toString m.down.isSome)]

end Migration

/-- Migrations that were applied together. -/
structure MigrationGroup where
  id : Int64 := 0
  members : List Migration := []
deriving Repr, DecidableEq, Inhabited

namespace MigrationGroup

/-- Whether this stands for no group. -/
def isZero (g : MigrationGroup) : Bool := g.id = 0 && g.members.isEmpty

/-- The number and the names of a group. -/
def text (g : MigrationGroup) : String :=
  if g.isZero then "nil"
  else s!"group #{g.id.toInt} (" ++ ", ".intercalate (g.members.map (·.name)) ++ ")"

end MigrationGroup

/-! ## Lists of migrations -/

/-- Whether a migration comes first among the applied ones: by group and then by name, both
falling. -/
def Migration.before (a b : Migration) : Bool :=
  b.group < a.group || (a.group = b.group && b.name ≤ a.name)

namespace Migrations

/-- The applied ones, the last group first. -/
def applied (ms : List Migration) : List Migration :=
  (ms.filter Migration.isApplied).mergeSort Migration.before

/-- Those that are not applied. -/
def unapplied (ms : List Migration) : List Migration := ms.filter fun m => !m.isApplied

/-- The greater of two numbers. -/
def greater (a b : Int64) : Int64 := if a < b then b else a

/-- The highest number of a group; zero if there is no migration at all. -/
def lastGroupId : List Migration → Int64
  | [] => 0
  | m :: ms => ms.foldl (fun id m => greater id m.group) m.group

/-- The migrations with the highest number, unless that is zero. -/
def lastGroup (ms : List Migration) : MigrationGroup :=
  let id := lastGroupId ms
  if id = 0 then {} else ⟨id, ms.filter (·.group = id)⟩

/-- In ascending order of their names. -/
def sorted (ms : List Migration) : List Migration := ms.mergeSort fun a b => a.name ≤ b.name

end Migrations

end ColumnWire

import ColumnWire.Migration

/-!
# The migrations that are known

A registry holds migrations in the order in which they were added. Those in a directory
are found by the names of its files: `.up.sql` behind the name of a migration applies
it, `.down.sql` undoes it. A directory counts as a whole or not at all.
-/
namespace ColumnWire

/-- Known migrations, and where new ones are written. -/
structure Registry where
  directory : Option String := none
  migrations : List Migration := []
deriving Repr, DecidableEq, Inhabited

namespace Registry

/-- Where new migrations are written. -/
def place (r : Registry) : String := r.directory.getD "."

/-- Add a migration at the end. -/
def add (r : Registry) (m : Migration) : Registry := { r with migrations := r.migrations ++ [m] }

/-- The known migrations in ascending order of their names. -/
def sorted (r : Registry) : List Migration := Migrations.sorted r.migrations

/-! ## Directories -/

/-- The two directions of a migration. -/
inductive Direction where
  | up
  | down
deriving Repr, DecidableEq

/-- The end of the name of a file. -/
def Direction.ending : Direction → List Char
  | .up => ".up.sql".toList
  | .down => ".down.sql".toList

/-- What stands before a given end. -/
def stem? (ending name : List Char) : Option (List Char) :=
  if ending.isSuffixOf name then some (name.take (name.length - ending.length)) else none

/-- The migration and the direction that the name of a file stands for. -/
def classify? (name : String) : Option (String × Direction) :=
  match stem? Direction.up.ending name.toList with
  | some stem => some (String.ofList stem, .up)
  | none =>
    match stem? Direction.down.ending name.toList with
    | some stem => some (String.ofList stem, .down)
    | none => none

/-- A migration with one direction known. -/
def withStep (m : Migration) (direction : Direction) (step : Step) : Migration :=
  match direction with
  | .up => { m with up := some step }
  | .down => { m with down := some step }

/-- Add a direction of a migration to a list in ascending order of names. -/
def insertStep (name : String) (direction : Direction) (step : Step) : List Migration → List Migration
  | [] => [withStep { name } direction step]
  | m :: ms =>
    if m.name = name then withStep m direction step :: ms
    else if name < m.name then withStep { name } direction step :: m :: ms
    else m :: insertStep name direction step ms

/-- Read the entries of a directory onto the migrations found before. -/
def scan : List DirectoryEntry → (found : List Migration) → Except FileFault (List Migration)
  | [], found => .ok found
  | entry :: entries, found =>
    match entry.kind, classify? entry.name with
    | .file content, some (name, direction) =>
      match FileFault.text content with
      | .error fault => .error fault
      | .ok text => scan entries (insertStep name direction (.sql text) found)
    | _, _ => scan entries found

/-- Add the migrations of a directory. -/
def discover (r : Registry) (path : String) (entries : Except FileFault (List DirectoryEntry)) :
    Except FileFault Registry := do
  let found ← scan (← entries) []
  return { directory := some (r.directory.getD path), migrations := r.migrations ++ found }

end Registry

end ColumnWire

import ColumnWire.Migration.Fault
import ColumnWire.Migration.Registry

/-!
# New migrations

The name of a new migration starts with the moment it was made, so that names sort by
age. Its files are filled with something to start from.
-/
namespace ColumnWire

/-- A file to be written. -/
structure NewFile where
  name : String
  path : String
  content : String
deriving Repr, DecidableEq, Inhabited

namespace NewFile

/-- Two parts of a path, with a slash between them. -/
def join (directory name : String) : String :=
  if directory = "" ∨ directory.toList.getLast? = some '/' then directory ++ name
  else directory ++ "/" ++ name

/-- Whether a character may stand in the name of a migration. -/
def isNameChar (c : Char) : Bool := c.isDigit || ('a' ≤ c && c ≤ 'z') || c = '_' || c = '-'

/-- The name of a migration with the moment in front. -/
def stamped (name : String) (second : Int) : Except MigrateError String :=
  if name ≠ "" ∧ name.toList.all isNameChar then .ok (Calendar.stampText second ++ "_" ++ name)
  else .error (.invalidName name)

/-- Two statements to start from. -/
def sqlTemplate : String := "SELECT 1\n\n--migration:split\n\nSELECT 2\n"

/-- A direction of a migration in code: its name, and what it prints. -/
def codeStep (name label : String) : List String :=
  ["struct " ++ name ++ ";", "", "#[async_trait::async_trait]",
    "impl MigrationStep for " ++ name ++ " \x7b",
    "    async fn run(&self, _db: &dyn Executor) -> chwire::Result<()> \x7b",
    "        println!(\" [" ++ label ++ " migration] \");", "        Ok(())", "    \x7d", "\x7d", ""]

/-- A migration in code to start from. -/
def codeTemplate : String :=
  let lines := ["use chwire::migrate::\x7bExecutor, Migration, MigrationStep\x7d;", ""] ++
    codeStep "Up" "up" ++ codeStep "Down" "down" ++
    ["pub fn migration(name: &str) -> Migration \x7b",
      "    Migration::new(name).up(Up).down(Down)", "\x7d"]
  String.join (lines.map (· ++ "\n"))

/-- The files of a new migration in statements. -/
def sql (r : Registry) (name : String) (second : Int) : Except MigrateError (List NewFile) := do
  let name ← stamped name second
  return [name ++ ".up.sql", name ++ ".down.sql"].map fun file =>
    ⟨file, join r.place file, sqlTemplate⟩

/-- The file of a new migration in code. -/
def code (r : Registry) (name : String) (second : Int) : Except MigrateError (List NewFile) := do
  let file := (← stamped name second) ++ ".rs"
  return [⟨file, join r.place file, codeTemplate⟩]

/-- Write files one after another, up to the first that cannot be written. -/
def writeAll {m : Type → Type} [Monad m] (write : NewFile → m (Except FileFault Unit)) :
    List NewFile → ExceptT MigrateError m (List NewFile)
  | [] => return []
  | file :: files => do
    match ← write file with
    | .ok () => return file :: (← writeAll write files)
    | .error fault => throw (.file fault)

end NewFile

end ColumnWire

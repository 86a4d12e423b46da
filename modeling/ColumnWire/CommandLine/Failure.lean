import ColumnWire.Migration.Fault

/-!
# Reports of failures

A report says what went wrong and, line by line, what it was caused by. Several causes
are numbered, and the lines of a text that has more than one stay behind its number.
-/
namespace ColumnWire

/-- What the failure was caused by, the innermost cause last. -/
def Error.causes : Error → List String
  | .io fault | .connect _ fault => [fault.message]
  | .server exception => exception.causes.map ExceptionRecord.text
  | _ => []

/-- What the failure was caused by, the innermost cause last. -/
def MigrateError.causes : MigrateError → List String
  | .alreadyLocked e | .alreadyUnlocked e | .step _ e => e.message :: e.causes
  | .database e => e.causes
  | .file fault => [fault.message]
  | .noMigrations | .invalidName _ | .layout _ => []

/-- The end of a run that has failed. -/
structure Failure where
  text : String
  causes : List String := []
deriving Repr, DecidableEq, Inhabited

namespace Failure

def ofError (e : Error) : Failure := ⟨e.message, e.causes⟩

def ofMigrateError (e : MigrateError) : Failure := ⟨e.message, e.causes⟩

/-- A text whose first line has something in front, and the others as many blanks. -/
def indented (first : String) (width : Nat) (text : String) : String :=
  let parts := text.toList.splitOnP (· = '\n')
  first ++ ("\n" ++ String.ofList (List.replicate width ' ')).intercalate (parts.map String.ofList)

/-- A numbered cause. -/
def numbered (number : Nat) (text : String) : String :=
  let digits := toString number
  indented (String.ofList (List.replicate (5 - digits.length) ' ') ++ digits ++ ": ") 7 text

/-- Causes, each on lines of its own. -/
def causeLines : List String → List String
  | [cause] => [indented "    " 4 cause]
  | causes => causes.mapIdx numbered

/-- The whole report. -/
def report (f : Failure) : String :=
  "Error: " ++ f.text ++
    (if f.causes = [] then "" else "\n\nCaused by:\n" ++ "\n".intercalate (causeLines f.causes)) ++ "\n"

end Failure

end ColumnWire

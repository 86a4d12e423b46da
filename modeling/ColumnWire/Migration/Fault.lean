import ColumnWire.Calendar
import ColumnWire.Directory
import ColumnWire.Error
import ColumnWire.Text.Quoted

/-!
# What can go wrong with migrations
-/
namespace ColumnWire

/-- A table of migrations that is not as expected. -/
inductive LayoutFault where
  | missingColumn (name : String)
  | wrongType (name type : String)
  /-- A moment that the table cannot hold. -/
  | momentOutOfRange (second : Int)
deriving Repr, DecidableEq, Inhabited

def LayoutFault.message : LayoutFault → String
  | .missingColumn name => "missing column " ++ name
  | .wrongType name type =>
    name ++ " is not a" ++ (if type.startsWith "I" then "n " else " ") ++ type
  | .momentOutOfRange second =>
    "migration time " ++ Calendar.momentText " " second ++ " UTC is out of DateTime range"

/-- A failure of a migrator. -/
inductive MigrateError where
  | alreadyLocked (cause : Error)
  | alreadyUnlocked (cause : Error)
  | noMigrations
  | invalidName (name : String)
  | step (name : String) (cause : Error)
  | layout (fault : LayoutFault)
  | database (cause : Error)
  | file (fault : FileFault)
deriving Repr, DecidableEq, Inhabited

namespace MigrateError

/-- The failure in words. -/
def message : MigrateError → String
  | .alreadyLocked cause => "migrations table is already locked (" ++ cause.message ++ ")"
  | .alreadyUnlocked cause => "migrations table is already unlocked (" ++ cause.message ++ ")"
  | .noMigrations => "there are no migrations"
  | .invalidName name => "invalid migration name: " ++ Quoted.encode name
  | .step name cause => "migration " ++ name ++ " failed: " ++ cause.message
  | .layout fault => "unexpected migrations table layout: " ++ fault.message
  | .database cause => cause.message
  | .file fault => "IO error: " ++ fault.message

end MigrateError

end ColumnWire

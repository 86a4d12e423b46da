import ColumnWire.Config.Json
import ColumnWire.Directory
import ColumnWire.Toml

/-!
# Configurations in files

A file holds a document whose keys are the parts of a configuration, with a table of
settings. The configuration has to be one that can be used.
-/
namespace ColumnWire.Config

/-- The configuration that a document describes. -/
def ofDocument (text : String) : Except Error Config :=
  match (Toml.parse? text).bind ofJson? with
  | none => .error (.config .malformedFile)
  | some c => c.validated

/-- The configuration in a file. -/
def ofFile (path : String) (content : Except FileFault Bytes) : Except Error Config :=
  match FileFault.text content with
  | .error fault => .error (.config (.unreadableFile path fault.message))
  | .ok text => ofDocument text

end ColumnWire.Config

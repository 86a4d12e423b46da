import ColumnWire.Text.Utf8

/-!
# Files

A directory is seen as the list of its entries, in whatever order they are listed. A
file has content, unless it cannot be read.
-/
namespace ColumnWire

/-- Why a file or a directory cannot be used. -/
inductive FileFault where
  | missing
  | notText
  /-- The name has more bytes than a name may have. -/
  | nameTooLong
  | reported (text : String)
deriving Repr, DecidableEq, Inhabited

def FileFault.message : FileFault → String
  | .missing => "No such file or directory (os error 2)"
  | .notText => "stream did not contain valid UTF-8"
  | .nameTooLong => "File name too long (os error 36)"
  | .reported text => text

/-- What a name in a directory stands for. -/
inductive FileKind where
  | file (content : Except FileFault Bytes)
  | directory

/-- An entry of a directory. -/
structure DirectoryEntry where
  name : String
  kind : FileKind

/-- The text of a file's content. -/
def FileFault.text (content : Except FileFault Bytes) : Except FileFault String :=
  match content with
  | .error fault => .error fault
  | .ok bs =>
    match Utf8.decode? bs with
    | some text => .ok text
    | none => .error .notText

end ColumnWire

import ColumnWire.Text.Quoted

/-!
# Values in words

A record is its name and its fields in braces, a wrapper its name and what it holds in
parentheses. Texts are quoted, so that a description stays on one line.
-/
namespace ColumnWire.Described

/-- A name with fields. -/
def record (name : String) (fields : List (String × String)) : String :=
  name ++ " \x7b " ++ ", ".intercalate (fields.map fun (field, value) => field ++ ": " ++ value) ++ " \x7d"

/-- A name with one value. -/
def wrapped (name value : String) : String := name ++ "(" ++ value ++ ")"

/-- A value that may be missing. -/
def option : Option String → String
  | none => "None"
  | some value => wrapped "Some" value

end ColumnWire.Described

import ColumnWire.Block
import ColumnWire.Column.Value

/-!
# The rows of a block as lines

A row is one line: its cells with tabs between them, or one object of JSON with a field
for each column. The fields come in ascending order of their names.
-/
namespace ColumnWire.Block

/-- A value as it stands among tabs: a text as it is, anything else as in JSON, and nothing for a
cell that is not there. -/
def plain : Option Json → String
  | none => ""
  | some (.string text) => text
  | some value => value.render

/-- A row with tabs between its cells. -/
def textLine (b : Block) (row : Nat) : String :=
  "\t".intercalate (b.columns.toList.map fun c => plain (c.data.value? row))

/-- Set a field among fields in ascending order of their names; a value of that name is replaced. -/
def setField (name : String) (value : Json) : List (String × Json) → List (String × Json)
  | [] => [(name, value)]
  | field :: fields =>
    if field.1 = name then (name, value) :: fields
    else if name < field.1 then (name, value) :: field :: fields
    else field :: setField name value fields

/-- The fields of a row. Of two columns of one name the last one counts. -/
def fields (b : Block) (row : Nat) : List (String × Json) :=
  b.columns.toList.foldl (fun fields c => setField c.name ((c.data.value? row).getD .null) fields) []

/-- A row as an object. -/
def jsonLine (b : Block) (row : Nat) : String := (Json.object (b.fields row)).render

/-- The lines of all rows. -/
def lines (b : Block) (json : Bool) : List String :=
  (List.range b.rows).map (if json then b.jsonLine else b.textLine)

end ColumnWire.Block

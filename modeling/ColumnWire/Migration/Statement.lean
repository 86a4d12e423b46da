import ColumnWire.Text.Blank

/-!
# Statements of a migration file

A file holds several statements, with a line between them that has nothing on it but
the marker. Statements are trimmed, and empty ones dropped.
-/
namespace ColumnWire.Statement

/-- Stands on a line between two statements. -/
def marker : List Char := "--migration:split".toList

/-- The lines of a text, each with the line break that ends it. -/
def lines (cs : List Char) : List (List Char) :=
  let parts := cs.splitOnP (· = '\n')
  let last := parts.getLast?.getD []
  parts.dropLast.map (· ++ ['\n']) ++ if last = [] then [] else [last]

/-- Whether a line separates statements. -/
def isMarker (line : List Char) : Bool := Blank.trim line = marker

/-- The text between the marker lines. -/
def parts (cs : List Char) : List (List Char) := ((lines cs).splitOnP isMarker).map List.flatten

/-- The statements of a text. -/
def split (text : String) : List String :=
  (((parts text.toList).map Blank.trim).filter (· ≠ [])).map String.ofList

end ColumnWire.Statement

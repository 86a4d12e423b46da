import ColumnWire.Text.Digits

/-!
# Tables of code points

A table is written as text: numbers in hexadecimal with blanks between them make a row, and
rows have commas between them. What the numbers of a row say is up to the table; in a table
of ranges a row is the first and the last code point of a range, or the only one.
-/
namespace ColumnWire.CodeTable

/-- How far a table has been read. Rows and numbers are held with the last one first. -/
structure Reading where
  rows : List (List Nat) := []
  row : List Nat := []
  number : Option Nat := none

namespace Reading

def endNumber (r : Reading) : Reading :=
  match r.number with
  | none => r
  | some n => { r with row := n :: r.row, number := none }

def endRow (r : Reading) : Reading :=
  let r := r.endNumber
  if r.row = [] then r else { r with rows := r.row.reverse :: r.rows, row := [] }

/-- Read one more character. -/
def next (r : Reading) (c : Char) : Reading :=
  match Digits.hex? c with
  | some d => { r with number := some (16 * r.number.getD 0 + d) }
  | none => if c = ',' then r.endRow else r.endNumber

end Reading

/-- The rows of a table. -/
def rows (text : String) : List (List Nat) :=
  (text.toList.foldl Reading.next {}).endRow.rows.reverse

/-- The range of a row. -/
def rangeOf : List Nat → Option (Nat × Nat)
  | [n] => some (n, n)
  | [first, last] => some (first, last)
  | _ => none

/-- The ranges of a table. -/
def ranges (text : String) : List (Nat × Nat) := (rows text).filterMap rangeOf

/-- Whether a character lies in one of the ranges. -/
def covers (ranges : List (Nat × Nat)) (c : Char) : Bool :=
  ranges.any fun (first, last) => first ≤ c.toNat && c.toNat ≤ last

/-- What a row says after the code point that it starts with. -/
def entry? (rows : List (List Nat)) (c : Char) : Option (List Nat) :=
  (rows.find? fun row => row.head? = some c.toNat).map (·.drop 1)

/-- The characters with the given code points. -/
def text (ns : List Nat) : List Char := ns.map Char.ofNat

end ColumnWire.CodeTable

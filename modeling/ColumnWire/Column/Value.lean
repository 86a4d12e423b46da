import ColumnWire.Calendar
import ColumnWire.Column.Data
import ColumnWire.Json

/-!
# Cells as values

Every cell has a value to show: numbers as they are, days and seconds as dates, byte
strings as texts without the zeros at their end. Infinities have no value but null.
-/
namespace ColumnWire.ColumnData

/-- A real number, or null. -/
def ofReal (text : Option String) : Json := text.elim .null .real

/-- The value of a scalar. -/
def scalarValue (kind : Scalar) (v : BitVec (8 * kind.size)) : Json :=
  match kind with
  | .uint8 | .uint16 | .uint32 | .uint64 => .integer v.toNat
  | .int8 | .int16 | .int32 | .int64 => .integer v.toInt
  | .float32 => ofReal (Ieee.text32? v.toNat)
  | .float64 => ofReal (Ieee.text64? v.toNat)
  | .date => .string (Calendar.dateText (Calendar.dateOfDays v.toNat))
  | .dateTime => .string (Calendar.momentText " " v.toNat)

/-- A byte string without the zeros at its end. -/
def trimZeros (bs : Bytes) : Bytes := (bs.reverse.dropWhile (· = 0)).reverse

/-- The value in a row, if there is such a row. -/
def value? (data : ColumnData) (row : Nat) : Option Json :=
  match data with
  | .scalars kind cells => cells[row]?.map (scalarValue kind)
  | .strings cells => cells[row]?.map .string
  | .fixedStrings _ cells => cells[row]?.map fun bs => .string (Utf8.decode (trimZeros bs))

theorem value?_eq_none_iff (data : ColumnData) (row : Nat) :
    data.value? row = none ↔ data.size ≤ row := by
  cases data <;> simp [value?, size]

end ColumnWire.ColumnData

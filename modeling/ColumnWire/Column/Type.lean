import ColumnWire.Text.Blank
import ColumnWire.Text.Digits

/-!
# Column types

A column holds numbers of one width, texts, or byte strings of one width. A type is
written as a name; some names carry parameters that make no difference here.
-/
namespace ColumnWire

/-- The kinds of cell that take a fixed number of bytes. -/
inductive Scalar where
  | uint8 | uint16 | uint32 | uint64
  | int8 | int16 | int32 | int64
  | float32 | float64
  /-- Days since the start of 1970. -/
  | date
  /-- Seconds since the start of 1970. -/
  | dateTime
deriving Repr, DecidableEq, Inhabited

namespace Scalar

/-- All kinds. -/
def all : List Scalar :=
  [.uint8, .uint16, .uint32, .uint64, .int8, .int16, .int32, .int64, .float32, .float64, .date, .dateTime]

/-- Bytes of a cell. -/
def size : Scalar → Nat
  | .uint8 | .int8 => 1
  | .uint16 | .int16 | .date => 2
  | .uint32 | .int32 | .float32 | .dateTime => 4
  | .uint64 | .int64 | .float64 => 8

/-- The plain name of a kind. -/
def name : Scalar → String
  | .uint8 => "UInt8"
  | .uint16 => "UInt16"
  | .uint32 => "UInt32"
  | .uint64 => "UInt64"
  | .int8 => "Int8"
  | .int16 => "Int16"
  | .int32 => "Int32"
  | .int64 => "Int64"
  | .float32 => "Float32"
  | .float64 => "Float64"
  | .date => "Date"
  | .dateTime => "DateTime"

theorem size_pos (k : Scalar) : 0 < k.size := by cases k <;> decide

theorem mem_all (k : Scalar) : k ∈ all := by cases k <;> decide

end Scalar

/-- What the cells of a column are. -/
inductive ColumnType where
  | scalar (kind : Scalar)
  | string
  /-- Byte strings of `width` bytes. -/
  | fixedString (width : Nat)
deriving Repr, DecidableEq, Inhabited

namespace ColumnType

/-- The width in the name of a type of byte strings, which is not zero. -/
def width? (name : List Char) : Option Nat :=
  let start := "FixedString(".toList
  if start.isPrefixOf name then
    let rest := name.drop start.length
    if rest.getLast? = some ')' then
      match Digits.parse? Digits.wordLimit (Blank.trim rest.dropLast) with
      | some width => if width = 0 then none else some width
      | none => none
    else none
  else none

/-- The type that a name stands for, if it is one that can be read. -/
def parse? (name : String) : Option ColumnType :=
  match Scalar.all.find? fun kind => kind.name = name with
  | some kind => some (.scalar kind)
  | none =>
    if name = "Bool" then some (.scalar .uint8)
    else if name = "String" then some .string
    else if "DateTime(".toList.isPrefixOf name.toList then some (.scalar .dateTime)
    else (width? name.toList).map .fixedString

/-- The plain name of a type, without its parameters. -/
def kindName : ColumnType → String
  | .scalar kind => kind.name
  | .string => "String"
  | .fixedString _ => "FixedString"

end ColumnType

end ColumnWire

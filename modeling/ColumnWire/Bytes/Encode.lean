import ColumnWire.Bytes.Varint
import ColumnWire.Text.Utf8

/-!
# Writing single values

The written forms of numbers and texts. A text stands behind its length in bytes.
-/
namespace ColumnWire.Encode

/-- A number of variable length. -/
def varint (v : UInt64) : Bytes := Varint.encode v

/-- A count, as a number of variable length. -/
def count (n : Nat) : Bytes := Varint.encode (UInt64.ofNat n)

/-- A truth value in one byte. -/
def bool (b : Bool) : Bytes := [if b then 1 else 0]

/-- A signed number in four bytes. -/
def int32 (v : Int32) : Bytes := LittleEndian.encode 4 v.toUInt32.toNat

/-- A byte string behind its length. -/
def textBytes (bs : Bytes) : Bytes := count bs.length ++ bs

/-- A text behind its length. -/
def text (s : String) : Bytes := textBytes (Utf8.encode s)

theorem text_ne_nil (s : String) : text s ≠ [] := by
  simp [text, textBytes, count, Varint.encode, Varint.digits_ne_nil]

end ColumnWire.Encode

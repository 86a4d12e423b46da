import ColumnWire.Bytes.Encode
import ColumnWire.Column.Type
import ColumnWire.Decimal.Ieee
import ColumnWire.Stream.Builder

/-!
# The cells of a column

All cells of a column have one type. Scalars are kept by their bits, written least
significant byte first; texts are written behind their length, and byte strings padded
with zeros to the width of the column.
-/
namespace ColumnWire

/-- The cells of a column, in row order. -/
inductive ColumnData where
  | scalars (kind : Scalar) (cells : Array (BitVec (8 * kind.size)))
  | strings (cells : Array String)
  | fixedStrings (width : Nat) (cells : Array Bytes)
deriving DecidableEq

namespace ColumnData

/-- A column without cells. -/
def empty : ColumnType → ColumnData
  | .scalar kind => .scalars kind #[]
  | .string => .strings #[]
  | .fixedString width => .fixedStrings width #[]

instance : Inhabited ColumnData := ⟨.strings #[]⟩

/-- What the cells are. -/
def type : ColumnData → ColumnType
  | .scalars kind _ => .scalar kind
  | .strings _ => .string
  | .fixedStrings width _ => .fixedString width

/-- Number of cells. -/
def size : ColumnData → Nat
  | .scalars _ cells => cells.size
  | .strings cells => cells.size
  | .fixedStrings _ cells => cells.size

/-- Whether the cells are those of a column with the type of that name. -/
def fits (data : ColumnData) (typeName : String) : Bool := ColumnType.parse? typeName = some data.type

@[simp] theorem type_empty (t : ColumnType) : (empty t).type = t := by cases t <;> rfl

@[simp] theorem size_empty (t : ColumnType) : (empty t).size = 0 := by cases t <;> rfl

/-! ## Cells of one kind -/

/-- The cells of a column of texts. -/
def strings? : ColumnData → Option (Array String)
  | .strings cells => some cells
  | _ => none

/-- The cells of a column of the given scalars, as bits. -/
def scalars? (kind : Scalar) : ColumnData → Option (Array Nat)
  | .scalars k cells => if k = kind then some (cells.map BitVec.toNat) else none
  | _ => none

/-- The first value that is longer than the width of its column. -/
def tooWide? : ColumnData → Option (Bytes × Nat)
  | .fixedStrings width cells => (cells.find? fun v => width < v.length).map (·, width)
  | _ => none

/-! ## Writing -/

/-- A byte string with exactly `width` bytes: cut off, or filled up with zeros. -/
def pad (width : Nat) (bs : Bytes) : Bytes := bs.take width ++ List.replicate (width - bs.length) 0

/-- The bytes of all cells. -/
def encode : ColumnData → Bytes
  | .scalars kind cells => cells.toList.flatMap fun v => LittleEndian.encode kind.size v.toNat
  | .strings cells => cells.toList.flatMap Encode.text
  | .fixedStrings width cells => cells.toList.flatMap (pad width)

/-! ## Reading -/

variable {σ : Type} [Source σ]

/-- The cells that a payload holds. -/
def ofPayload (kind : Scalar) (payload : Bytes) : Array (BitVec (8 * kind.size)) :=
  ((payload.chunks kind.size).map fun bs => BitVec.ofNat _ (LittleEndian.decode bs)).toArray

/-- The payload of so many scalars. -/
def payload (kind : Scalar) (rows : Nat) : Decoder σ Bytes :=
  if Digits.wordLimit ≤ kind.size * rows then throw (.protocol (.columnTooLarge rows))
  else Decoder.bytes (kind.size * rows)

/-- Replace the cells by so many from the stream. When that fails, scalars stay as they were; of the
others those remain that were read before. -/
def readInto (type : ColumnType) (rows : Nat) : Builder σ ColumnData Unit :=
  match type with
  | .scalar kind => do
    let bs ← Builder.reading (payload kind rows)
    Builder.put (.scalars kind (ofPayload kind bs))
  | .string => Builder.within .strings #[] (Builder.pushes Decoder.text rows)
  | .fixedString width =>
    Builder.within (.fixedStrings width) #[] (Builder.pushes (Decoder.bytes width) rows)

/-- Read a column of so many rows. -/
def read (type : ColumnType) (rows : Nat) : Decoder σ ColumnData :=
  Builder.fresh (empty type) (readInto type rows)

theorem spends_readInto (type : ColumnType) (rows : Nat) :
    Spends Builder.left (readInto (σ := σ) type rows) 0 := by
  cases type with
  | scalar kind =>
    refine (Builder.spends_reading ?_).bindLeft fun _ => Builder.spends_put _
    exact Spends.ofIte (Spends.ofThrow _) ((Decoder.spends_bytes _).weaken (Nat.zero_le _))
  | string =>
    exact Builder.spends_within
      (Builder.spends_pushes (Decoder.spends_text.weaken (Nat.zero_le _)) rows)
  | fixedString width =>
    exact Builder.spends_within
      (Builder.spends_pushes ((Decoder.spends_bytes _).weaken (Nat.zero_le _)) rows)

theorem spends_read (type : ColumnType) (rows : Nat) :
    Spends Reader.left (read (σ := σ) type rows) 0 :=
  Builder.spends_fresh (spends_readInto type rows)

/-! ## Comparing -/

/-- Whether two scalars are equal as values: floating-point numbers by value, so that no number
equals the lack of one, and all else by bits. -/
def sameScalar (kind : Scalar) (a b : Nat) : Bool :=
  match kind with
  | .float32 => Ieee.binary32.equal a b
  | .float64 => Ieee.binary64.equal a b
  | _ => a = b

/-- Whether two columns have equal values. -/
def same (a b : ColumnData) : Bool :=
  match a, b with
  | .scalars k as, .scalars l bs =>
    k = l && as.size = bs.size &&
      (as.toList.zip bs.toList).all fun (v, w) => sameScalar k v.toNat w.toNat
  | a, b => a = b

end ColumnData

end ColumnWire

import ColumnWire.Column.Data

/-!
# Blocks

A block is a table: named columns with one number of rows. `push` keeps it one, and so
does reading, because all columns of a block are read with the row count in front.
A reading that fails leaves the columns that were complete.
-/
namespace ColumnWire

/-- A column with its name and the name of its type. -/
structure Column where
  name : String
  typeName : String
  data : ColumnData
deriving DecidableEq, Inhabited

/-- A part of a result, or of the data of an insertion. -/
structure Block where
  rows : Nat := 0
  columns : Array Column := #[]
deriving DecidableEq, Inhabited

namespace Block

/-- The block without columns. It ends the data of an insertion. -/
def empty : Block := {}

/-- Most columns that are read. -/
def maxColumns : Nat := 65536

/-- Most rows that are read. -/
def maxRows : Nat := maxTextSize

/-- The first column of a name. -/
def byName? (b : Block) (name : String) : Option Column := b.columns.find? (·.name = name)

/-- The rows a block has once a column of `size` cells is in it. -/
def rowsWith (b : Block) (size : Nat) : Nat := if b.columns.isEmpty then size else b.rows

/-- Why a column cannot be added, if it cannot: the first of the faults it has. -/
def fault? (b : Block) (c : Column) : Option BlockFault :=
  if c.name = "" then some .emptyName
  else if c.typeName = "" then some (.emptyType c.name)
  else if !c.data.fits c.typeName then some (.wrongType c.name c.typeName)
  else
    match c.data.tooWide? with
    | some (value, width) => some (.tooWide c.name value.length width)
    | none =>
      if c.data.size = b.rowsWith c.data.size then none
      else some (.wrongRows c.name c.data.size b.rows)

/-- Add a column at the end. The first one settles the number of rows. -/
def push (b : Block) (c : Column) : Except Error Block :=
  match b.fault? c with
  | some fault => .error (.invalidBlock fault)
  | none => .ok ⟨b.rowsWith c.data.size, b.columns.push c⟩

/-! ## Writing -/

/-- The numbers of the fields in front of a block. -/
def overflowsField : UInt64 := 1
def bucketField : UInt64 := 2
def endField : UInt64 := 0

/-- What stands in front of a block: no overflow rows, and no bucket. -/
def info : Bytes :=
  Encode.varint overflowsField ++ Encode.bool false ++ Encode.varint bucketField ++
    Encode.int32 (-1) ++ Encode.varint endField

/-- A column behind its name and type. -/
def encodeColumn (c : Column) : Bytes := Encode.text c.name ++ Encode.text c.typeName ++ c.data.encode

/-- The counts and the columns. -/
def encode (b : Block) : Bytes :=
  Encode.count b.columns.size ++ Encode.count b.rows ++ b.columns.toList.flatMap encodeColumn

/-- What a data packet carries: an empty table name, and the block, compressed so or not at all. -/
def payloadBy (compress : Bytes → Bytes) (compression : Bool) (b : Block) : Bytes :=
  Encode.text "" ++ Frame.packBy compress compression (info ++ b.encode)

/-- What a data packet carries with the compressor that is used. -/
def payload (compression : Bool) (b : Block) : Bytes := b.payloadBy Lz4.compress compression

/-! ## Reading -/

variable {σ : Type} [Source σ]

/-- Read the number of a field that has to come next. -/
def expectField (expected : UInt64) : Decoder σ Unit := do
  let found ← Decoder.varint
  if found = expected then pure () else throw (.protocol (.misplacedField found expected))

/-- Read what stands in front of a block. -/
def skipInfo : Decoder σ Unit := do
  expectField overflowsField
  let _ ← Decoder.bool
  expectField bucketField
  let _ ← Decoder.int32
  expectField endField

/-- Read a count that has a limit. -/
def limitedCount (limit : Nat) (fault : Nat → Nat → WireFault) : Decoder σ Nat := do
  let n ← Decoder.varint
  if n.toNat ≤ limit then pure n.toNat else throw (.protocol (fault n.toNat limit))

/-- Read a column of so many rows. -/
def readColumn (rows : Nat) : Decoder σ Column := do
  let name ← Decoder.text
  if name = "" then throw .emptyColumnName
  else
    let typeName ← Decoder.text
    if typeName = "" then throw (.emptyColumnType name)
    else
      match ColumnType.parse? typeName with
      | none => throw (.unsupportedColumnType typeName)
      | some type => return ⟨name, typeName, ← ColumnData.read type rows⟩

/-- Read so many columns, and add each to the block. -/
def readColumns (rows : Nat) : (count : Nat) → Builder σ Block Unit
  | 0 => pure ()
  | count + 1 => do
    let c ← Builder.reading (readColumn rows)
    Builder.update fun b => { b with columns := b.columns.push c }
    readColumns rows count

/-- Read the counts and the columns. Until both counts are known to be good the block stays. -/
def readBody : Builder σ Block Unit := do
  let columns ← Builder.reading (limitedCount maxColumns .tooManyColumns)
  let rows ← Builder.reading (limitedCount maxRows .tooManyRows)
  Builder.put { rows }
  readColumns rows columns

/-- Read what a data packet carries, in place of what is in the block. -/
def readInto : Builder σ Block Unit := do
  let _ ← Builder.reading Decoder.text
  Builder.compressed do
    Builder.reading skipInfo
    readBody

theorem spends_expectField (expected : UInt64) :
    Spends Reader.left (expectField (σ := σ) expected) 0 :=
  (Decoder.spends_varint.weaken (Nat.zero_le _)).bindLeft fun _ =>
    Spends.ofIte (Spends.ofPure _) (Spends.ofThrow _)

theorem spends_skipInfo : Spends Reader.left (skipInfo (σ := σ)) 0 :=
  (spends_expectField _).bindLeft fun _ =>
    (Decoder.spends_bool.weaken (Nat.zero_le _)).bindLeft fun _ =>
      (spends_expectField _).bindLeft fun _ =>
        (Decoder.spends_int32.weaken (Nat.zero_le _)).bindLeft fun _ => spends_expectField _

theorem spends_limitedCount (limit : Nat) (fault : Nat → Nat → WireFault) :
    Spends Reader.left (limitedCount (σ := σ) limit fault) 0 :=
  (Decoder.spends_varint.weaken (Nat.zero_le _)).bindLeft fun _ =>
    Spends.ofIte (Spends.ofPure _) (Spends.ofThrow _)

theorem spends_readColumn (rows : Nat) : Spends Reader.left (readColumn (σ := σ) rows) 0 := by
  refine (Decoder.spends_text.weaken (Nat.zero_le _)).bindLeft fun _ => ?_
  refine Spends.ofIte (Spends.ofThrow _) ?_
  refine (Decoder.spends_text.weaken (Nat.zero_le _)).bindLeft fun typeName => ?_
  refine Spends.ofIte (Spends.ofThrow _) ?_
  cases ColumnType.parse? typeName with
  | none => exact Spends.ofThrow _
  | some type => exact (ColumnData.spends_read type rows).bindLeft fun _ => Spends.ofPure _

theorem spends_readColumns (rows count : Nat) :
    Spends Builder.left (readColumns (σ := σ) rows count) 0 := by
  induction count with
  | zero => exact Spends.ofPure _
  | succ k ih =>
    exact (Builder.spends_reading (spends_readColumn rows)).bindLeft fun _ =>
      (Builder.spends_update _).bindLeft fun _ => ih

theorem spends_readBody : Spends Builder.left (readBody (σ := σ)) 0 :=
  (Builder.spends_reading (spends_limitedCount _ _)).bindLeft fun _ =>
    (Builder.spends_reading (spends_limitedCount _ _)).bindLeft fun _ =>
      (Builder.spends_put _).bindLeft fun _ => spends_readColumns _ _

theorem spends_readInto : Spends Builder.left (readInto (σ := σ)) 0 :=
  (Builder.spends_reading (Decoder.spends_text.weaken (Nat.zero_le _))).bindLeft fun _ =>
    Builder.spends_compressed
      ((Builder.spends_reading spends_skipInfo).bindLeft fun _ => spends_readBody)

/-! ## Comparing -/

/-- Whether two blocks have the same columns with equal values. -/
def same (a b : Block) : Bool :=
  a.rows = b.rows && a.columns.size = b.columns.size &&
    (a.columns.toList.zip b.columns.toList).all fun (c, d) =>
      c.name = d.name && c.typeName = d.typeName && c.data.same d.data

end Block

end ColumnWire

import ColumnWire.Stream.Reader

/-!
# Reading single values

Numbers of fixed width, numbers of variable length, byte strings and texts behind
their length. Each reading spends at least one byte, except that of a byte string of
a length known before.
-/
namespace ColumnWire.Decoder

variable {σ : Type} [Source σ]

/-- Take one byte. -/
def byte : Decoder σ UInt8 := do return (← take 1).headD 0

/-- A byte read as a truth value: all but zero is true. -/
def bool : Decoder σ Bool := do return (← byte) != 0

/-- A little-endian number of `n` bytes. -/
def word (n : Nat) : Decoder σ Nat := do return LittleEndian.decode (← take n)

def uint16 : Decoder σ UInt16 := do return UInt16.ofNat (← word 2)
def uint32 : Decoder σ UInt32 := do return UInt32.ofNat (← word 4)
def uint64 : Decoder σ UInt64 := do return UInt64.ofNat (← word 8)
def int8 : Decoder σ Int8 := do return (← byte).toInt8
def int16 : Decoder σ Int16 := do return (← uint16).toInt16
def int32 : Decoder σ Int32 := do return (← uint32).toInt32
def int64 : Decoder σ Int64 := do return (← uint64).toInt64

/-- Read the digits of a variable-length number, of which at most so many are left. What was
read makes up `value`, and a unit of the next digit counts for `weight`. The tenth digit may
only hold the one bit that is left. -/
def varintFrom : (digitsLeft : Nat) → (value weight : Nat) → Decoder σ UInt64
  | 0, _, _ => throw (.protocol .varintOverflow)
  | digitsLeft + 1, value, weight => do
    let b ← byte
    if digitsLeft = 0 ∧ 1 < b then throw (.protocol .varintOverflow)
    else if b < 128 then return UInt64.ofNat (value + weight * b.toNat)
    else varintFrom digitsLeft (value + weight * (b.toNat % 128)) (128 * weight)

/-- A variable-length number. -/
def varint : Decoder σ UInt64 := varintFrom Varint.maxLength 0 1

/-- A byte string of a given length. -/
def bytes (n : Nat) : Decoder σ Bytes :=
  if maxTextSize < n then throw (.protocol (.readTooLarge n)) else take n

/-- A byte string behind its length. -/
def textBytes : Decoder σ Bytes := do
  let n ← varint
  if maxTextSize < n.toNat then throw (.protocol (.textTooLarge n.toNat)) else take n.toNat

/-- A text behind its length in bytes. -/
def text : Decoder σ String := do return Utf8.decode (← textBytes)

theorem spends_byte : Spends Reader.left (byte (σ := σ)) 1 :=
  (spends_take 1).bindLeft fun _ => Spends.ofPure _

theorem spends_bool : Spends Reader.left (bool (σ := σ)) 1 :=
  spends_byte.bindLeft fun _ => Spends.ofPure _

theorem spends_word (n : Nat) : Spends Reader.left (word (σ := σ) n) n :=
  (spends_take n).bindLeft fun _ => Spends.ofPure _

theorem spends_int32 : Spends Reader.left (int32 (σ := σ)) 4 :=
  ((spends_word 4).bindLeft fun _ => Spends.ofPure _).bindLeft fun _ => Spends.ofPure _

theorem spends_varintFrom (digitsLeft value weight : Nat) :
    Spends Reader.left (varintFrom (σ := σ) digitsLeft value weight) 1 := by
  induction digitsLeft generalizing value weight with
  | zero => exact Spends.ofThrow _
  | succ k ih =>
    refine spends_byte.bindLeft fun b => ?_
    refine Spends.ofIte (Spends.ofThrow _) (Spends.ofIte (Spends.ofPure _) ?_)
    exact (ih _ _).weaken (Nat.zero_le _)

theorem spends_varint : Spends Reader.left (varint (σ := σ)) 1 := spends_varintFrom _ _ _

theorem spends_bytes (n : Nat) : Spends Reader.left (bytes (σ := σ) n) n :=
  Spends.ofIte (Spends.ofThrow _) (spends_take n)

theorem spends_textBytes : Spends Reader.left (textBytes (σ := σ)) 1 :=
  spends_varint.bindLeft fun _ =>
    Spends.ofIte (Spends.ofThrow _) ((spends_take _).weaken (Nat.zero_le _))

theorem spends_text : Spends Reader.left (text (σ := σ)) 1 :=
  spends_textBytes.bindLeft fun _ => Spends.ofPure _

end ColumnWire.Decoder

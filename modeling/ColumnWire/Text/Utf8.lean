import ColumnWire.Bytes

/-!
# Text as bytes

Text is written in UTF-8. Reading never fails: bytes that are no UTF-8 turn into
replacement characters, one for each longest run that could still have become a
character. Well-formed bytes are read back exactly (`decode_encode`).
-/
namespace ColumnWire.Utf8

/-- The bytes of a text. -/
def encode (s : String) : Bytes := s.toUTF8.data.toList

/-- The text that bytes spell, if they are well formed. -/
def decode? (bs : Bytes) : Option String := String.fromUTF8? ⟨bs.toArray⟩

/-- Stands for bytes that are no text. -/
def replacement : Char := '\uFFFD'

/-- A character whose first bytes have arrived. -/
structure Pending where
  /-- Bytes still to come. -/
  missing : Nat
  /-- The range the next byte has to lie in. -/
  low : UInt8
  high : UInt8
  /-- The bits gathered so far. -/
  value : Nat

/-- What a byte announces at the start of a character: all of it, its beginning, or nothing. -/
inductive Lead where
  | whole (c : Char)
  | start (p : Pending)
  | none

/-- Classify the first byte of a character. The ranges of the second byte exclude forms
that are too long, surrogates, and values past the last code point. -/
def lead (b : UInt8) : Lead :=
  let n := b.toNat
  if n < 0x80 then .whole (Char.ofNat n)
  else if n < 0xC2 then .none
  else if n < 0xE0 then .start ⟨1, 0x80, 0xBF, n % 0x20⟩
  else if n = 0xE0 then .start ⟨2, 0xA0, 0xBF, n % 0x10⟩
  else if n = 0xED then .start ⟨2, 0x80, 0x9F, n % 0x10⟩
  else if n < 0xF0 then .start ⟨2, 0x80, 0xBF, n % 0x10⟩
  else if n = 0xF0 then .start ⟨3, 0x90, 0xBF, n % 0x08⟩
  else if n < 0xF4 then .start ⟨3, 0x80, 0xBF, n % 0x08⟩
  else if n = 0xF4 then .start ⟨3, 0x80, 0x8F, n % 0x08⟩
  else .none

/-- Read one byte at the start of a character. -/
def atStart (b : UInt8) (done : String) : Option Pending × String :=
  match lead b with
  | .whole c => (none, done.push c)
  | .start p => (some p, done)
  | .none => (none, done.push replacement)

/-- Read bytes onto the text `done`, with a character possibly under way. A byte that
cannot continue the character closes it as a replacement and starts anew. -/
def repairFrom : Option Pending → Bytes → (done : String) → String
  | none, [], done => done
  | some _, [], done => done.push replacement
  | none, b :: bs, done =>
    let (pending, done) := atStart b done
    repairFrom pending bs done
  | some p, b :: bs, done =>
    if p.low ≤ b ∧ b ≤ p.high then
      let value := p.value * 64 + b.toNat % 64
      if p.missing = 1 then repairFrom none bs (done.push (Char.ofNat value))
      else repairFrom (some ⟨p.missing - 1, 0x80, 0xBF, value⟩) bs done
    else
      let (pending, done) := atStart b (done.push replacement)
      repairFrom pending bs done

/-- The text that bytes spell, with replacement characters where they spell none. -/
def decode (bs : Bytes) : String := (decode? bs).getD (repairFrom none bs "")

@[simp] theorem decode?_encode (s : String) : decode? (encode s) = some s := by
  simp only [decode?, encode, String.fromUTF8?, Array.toArray_toList]
  exact dif_pos s.isValidUTF8

@[simp] theorem decode_encode (s : String) : decode (encode s) = s := by
  simp [decode]

end ColumnWire.Utf8

import ColumnWire.Text.Utf8

/-!
# Percent encoding

A byte may be spelled as a percent sign and two hexadecimal digits. Which characters
have to be depends on where they stand; those outside ASCII and the controls always.
Decoding leaves a percent sign alone that is followed by no such digits.
-/
namespace ColumnWire.Percent

/-- A set of characters that are spelled by their bytes. -/
abbrev CharSet := Char → Bool

/-- The characters that are spelled by their bytes everywhere. -/
def controls : CharSet := fun c => c.toNat < 0x20 || 0x7F ≤ c.toNat

/-- Those in a path. -/
def path : CharSet := fun c => controls c || " \"<>`#?\x7b\x7d".toList.contains c

/-- Those in a user name or a password. -/
def credentials : CharSet := fun c => path c || "/:;=@[\\]^|".toList.contains c

/-- An uppercase hexadecimal digit. -/
def hexDigit (n : Nat) : Char := (Nat.digitChar n).toUpper

/-- A byte spelled out. -/
def spell (b : UInt8) : List Char := ['%', hexDigit (b.toNat / 16), hexDigit (b.toNat % 16)]

/-- A character, spelled out if it is in the set. -/
def encodeChar (set : CharSet) (c : Char) : List Char :=
  if set c then (Utf8.encode c.toString).flatMap spell else [c]

/-- A text whose characters of a set are spelled out. -/
def encode (set : CharSet) (cs : List Char) : List Char := cs.flatMap (encodeChar set)

/-- The value of a hexadecimal digit. -/
def hexValue? (b : UInt8) : Option UInt8 :=
  if 0x30 ≤ b ∧ b ≤ 0x39 then some (b - 0x30)
  else if 0x41 ≤ b ∧ b ≤ 0x46 then some (b - 0x37)
  else if 0x61 ≤ b ∧ b ≤ 0x66 then some (b - 0x57)
  else none

/-- Read bytes back onto `done`, which holds those before, the last one first. -/
def decodeOnto (done : Bytes) : Bytes → Bytes
  | [] => done.reverse
  | 0x25 :: high :: low :: rest =>
    match hexValue? high, hexValue? low with
    | some h, some l => decodeOnto ((16 * h + l) :: done) rest
    | _, _ => decodeOnto (0x25 :: done) (high :: low :: rest)
  | b :: rest => decodeOnto (b :: done) rest
termination_by bs => bs.length

/-- The bytes that are spelled. -/
def decode (bs : Bytes) : Bytes := decodeOnto [] bs

/-! ## Pairs -/

/-- A name or value of a query: a plus sign stands for a blank. -/
def decodeComponent (cs : List Char) : String :=
  let bs := Utf8.encode (String.ofList cs)
  Utf8.decode (decode (bs.map fun b => if b = 0x2B then 0x20 else b))

/-- Names and values between ampersands. A part without an equals sign is a name. -/
def pairs (query : List Char) : List (String × String) :=
  ((query.splitOnP (· = '&')).filter (· ≠ [])).map fun part =>
    let (name, rest) := part.span (· ≠ '=')
    (decodeComponent name, decodeComponent (rest.drop 1))

end ColumnWire.Percent

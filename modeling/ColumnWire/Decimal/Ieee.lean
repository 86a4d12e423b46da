import ColumnWire.Decimal.Shortest

/-!
# Floating-point bit patterns as text

A pattern of 32 or 64 bits is a sign, an exponent and a fraction. Its text is the
shortest decimal that reads back as the 64-bit number; narrow numbers are widened
first, which changes no value. Infinities and patterns that are no number have no text.
-/
namespace ColumnWire.Ieee

/-- The sizes of the fields of a pattern. -/
structure Format where
  exponentBits : Nat
  fractionBits : Nat

def binary32 : Format := ⟨8, 23⟩
def binary64 : Format := ⟨11, 52⟩

namespace Format

def fraction (f : Format) (bits : Nat) : Nat := bits % Nat.pow 2 f.fractionBits

def exponent (f : Format) (bits : Nat) : Nat := bits / Nat.pow 2 f.fractionBits % Nat.pow 2 f.exponentBits

def isNegative (f : Format) (bits : Nat) : Bool :=
  bits / Nat.pow 2 (f.fractionBits + f.exponentBits) % 2 = 1

/-- Whether a pattern stands for a number. -/
def isFinite (f : Format) (bits : Nat) : Bool := f.exponent bits ≠ Nat.pow 2 f.exponentBits - 1

/-- Whether a pattern stands for no number and no infinity. -/
def isNaN (f : Format) (bits : Nat) : Bool := !f.isFinite bits && f.fraction bits ≠ 0

/-- Whether a pattern stands for zero, of either sign. -/
def isZero (f : Format) (bits : Nat) : Bool := f.fraction bits = 0 && f.exponent bits = 0

/-- Whether two patterns compare equal as numbers. -/
def equal (f : Format) (a b : Nat) : Bool :=
  !f.isNaN a && !f.isNaN b && (a = b || (f.isZero a && f.isZero b))

/-- The magnitude of a number. -/
def magnitude (f : Format) (bits : Nat) : Decimal.Binary :=
  let bias : Int := Nat.pow 2 (f.exponentBits - 1) - 1
  let e := f.exponent bits
  let low : Int := 1 - bias - f.fractionBits
  if e = 0 then ⟨f.fraction bits, low⟩ else ⟨Nat.pow 2 f.fractionBits + f.fraction bits, low + e - 1⟩

end Format

/-- Where the point may stand in positional notation: after at least so many zeros, and after at
most so many digits. -/
def leastPoint : Int := -4
def greatestPoint : Int := 16

/-- A decimal in text. Positional notation always has a digit after the point; otherwise the
exponent carries its sign. -/
def decimalText (d : Decimal.Digits) : String :=
  let ds := Nat.toDigits 10 d.digits
  let point : Int := d.exponent + ds.length
  if 0 ≤ d.exponent ∧ point ≤ greatestPoint then
    String.ofList (ds ++ List.replicate d.exponent.toNat '0') ++ ".0"
  else if 0 < point ∧ point ≤ greatestPoint then
    String.ofList (ds.take point.toNat) ++ "." ++ String.ofList (ds.drop point.toNat)
  else if leastPoint ≤ point ∧ point ≤ 0 then
    "0." ++ String.ofList (List.replicate (-point).toNat '0' ++ ds)
  else
    let tail := ds.drop 1
    String.ofList (ds.take 1) ++ (if tail = [] then "" else "." ++ String.ofList tail) ++ "e" ++
      (if 0 < point then "+" else "") ++ toString (point - 1)

/-- The text of a pattern, if it stands for a number. -/
def text? (f : Format) (bits : Nat) : Option String :=
  if f.isFinite bits then
    let sign := if f.isNegative bits then "-" else ""
    let b := f.magnitude bits
    some (sign ++ if b.mantissa = 0 then "0.0" else decimalText (Decimal.shortest b))
  else none

/-- The text of a pattern of 64 bits. -/
def text64? (bits : Nat) : Option String := text? binary64 bits

/-- The text of a pattern of 32 bits, widened to 64. -/
def text32? (bits : Nat) : Option String :=
  if binary32.isFinite bits then
    let sign := if binary32.isNegative bits then "-" else ""
    let b := binary32.magnitude bits
    some (sign ++ if b.mantissa = 0 then "0.0" else decimalText (Decimal.shortest b.normalize))
  else none

end ColumnWire.Ieee

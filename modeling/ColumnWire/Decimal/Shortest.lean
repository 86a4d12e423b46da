/-!
# Shortest decimals

The fewest decimal digits that read back as a given binary number of 53 bits, and of
those the ones nearest to it. The numbers that round to a binary number form an
interval around it; a grid of decimals with one digit, two digits, … up to seventeen
is searched for a point inside. On each grid only the two neighbours of the number
can be nearest.
-/
namespace ColumnWire.Decimal

/-- The number `mantissa · 2 ^ exponent`. -/
structure Binary where
  mantissa : Nat
  exponent : Int
deriving Repr, DecidableEq

/-- The number `digits · 10 ^ exponent`. -/
structure Digits where
  digits : Nat
  exponent : Int
deriving Repr, DecidableEq

namespace Binary

/-- Bits of a mantissa. -/
def precision : Nat := 53

/-- The exponent of the smallest numbers. -/
def minExponent : Int := -1074

/-- The same number with as many bits in its mantissa as it can have. -/
def normalize (b : Binary) : Binary :=
  let room := precision - (b.mantissa.log2 + 1)
  ⟨Nat.pow 2 room * b.mantissa, b.exponent - room⟩

/-- A number as a quotient, in quarters of its last bit: the numerator of such a quarter and
the common denominator. -/
def quarter (b : Binary) : Nat × Nat :=
  if 2 ≤ b.exponent then (Nat.pow 2 (b.exponent - 2).toNat, 1) else (1, Nat.pow 2 (2 - b.exponent).toNat)

/-- How many quarters below the number the interval starts. Below a power of two the
neighbour is only half as far away. -/
def gapBelow (b : Binary) : Nat :=
  if b.mantissa = Nat.pow 2 (precision - 1) ∧ minExponent < b.exponent then 1 else 2

/-- Whether a quotient rounds to the number. The ends of the interval do if the mantissa is even. -/
def covers (b : Binary) (num den : Nat) : Bool :=
  let (unit, whole) := b.quarter
  let low := unit * (4 * b.mantissa - b.gapBelow) * den
  let high := unit * (4 * b.mantissa + 2) * den
  let x := num * whole
  if b.mantissa % 2 = 0 then low ≤ x && x ≤ high else low < x && x < high

/-- Decimal digits before the point of a quotient; for a quotient below one, minus the number
of zeros after the point. -/
def magnitude (num den : Nat) : Int :=
  if den ≤ num then ((Nat.toDigits 10 (num / den)).length : Int)
  else
    0 - ((List.range 400).findIdx fun z => decide (den ≤ num * Nat.pow 10 (z + 1)) : Nat)

/-- The point of the grid of multiples of `10 ^ k` that stands for the number, if one does. -/
def onGrid (b : Binary) (k : Int) : Option Digits :=
  let (unit, whole) := b.quarter
  let num := unit * (4 * b.mantissa)
  let (num, den) := if 0 ≤ k then (num, whole * Nat.pow 10 k.toNat) else (num * Nat.pow 10 (-k).toNat, whole)
  let below := num / den
  let inside := fun c => if 0 ≤ k then b.covers (c * Nat.pow 10 k.toNat) 1 else b.covers c (Nat.pow 10 (-k).toNat)
  let rest := num % den
  let preferAbove := den < 2 * rest || (2 * rest == den && below % 2 == 1)
  if inside below && 0 < below then
    if preferAbove && inside (below + 1) then some ⟨below + 1, k⟩ else some ⟨below, k⟩
  else if inside (below + 1) then some ⟨below + 1, k⟩ else none

end Binary

/-- The same number without zeros at the end of its digits. At most `fuel` are taken off. -/
def Digits.trim : (fuel : Nat) → Digits → Digits
  | 0, d => d
  | fuel + 1, d => if d.digits % 10 = 0 ∧ 0 < d.digits then trim fuel ⟨d.digits / 10, d.exponent + 1⟩ else d

/-- The shortest decimal that reads back as the number, which is not zero. -/
def shortest (b : Binary) : Digits :=
  let (unit, whole) := b.quarter
  let size := Binary.magnitude (unit * (4 * b.mantissa)) whole
  let found := (List.range 17).findSome? fun (n : Nat) => b.onGrid (size - ((n : Int) + 1))
  (found.getD ⟨b.mantissa, b.exponent⟩).trim 20

end ColumnWire.Decimal

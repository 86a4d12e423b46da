/-!
# Digits

The numbers that digits spell, and those that a word of 64 bits can hold.
-/
namespace ColumnWire.Digits

/-- The number that decimal digits spell. -/
def value (ds : List Char) : Nat := ds.foldl (fun n d => 10 * n + (d.toNat - 48)) 0

/-- The value of a hexadecimal digit of either case. -/
def hex? (c : Char) : Option Nat :=
  if c.isDigit then some (c.toNat - 48)
  else if 'a' ≤ c ∧ c ≤ 'f' then some (c.toNat - 87)
  else if 'A' ≤ c ∧ c ≤ 'F' then some (c.toNat - 55)
  else none

/-- The numbers of 64 bits. -/
def wordLimit : Nat := 18446744073709551616

/-- The number that a text spells: digits, at least one, with or without a plus sign in front.
The number has to be below `limit`. -/
def parse? (limit : Nat) (text : List Char) : Option Nat :=
  let ds := match text with
    | '+' :: ds => ds
    | ds => ds
  if ds ≠ [] ∧ ds.all Char.isDigit ∧ value ds < limit then some (value ds) else none

end ColumnWire.Digits

import ColumnWire.Bytes

/-!
# Variable-length numbers, written

Seven bits a byte, the low group first; every byte but the last has its high bit
set. A 64-bit number takes at most ten bytes, and no shorter byte string spells it.
-/
namespace ColumnWire.Varint

/-- The digits of a number in base 128, every digit but the last marked as not the last. -/
def digits (v : Nat) : Bytes :=
  if v < 128 then [UInt8.ofNat v] else UInt8.ofNat (v % 128 + 128) :: digits (v / 128)

/-- The written form of a 64-bit number. -/
def encode (v : UInt64) : Bytes := digits v.toNat

/-- Bytes a 64-bit number takes at most. -/
def maxLength : Nat := 10

theorem digits_ne_nil (v : Nat) : digits v ≠ [] := by
  rw [digits]; split <;> simp

theorem length_digits_le (n v : Nat) (h : v < Nat.pow 128 (n + 1)) : (digits v).length ≤ n + 1 := by
  induction n generalizing v with
  | zero => rw [digits, if_pos h]; exact Nat.le_refl 1
  | succ n ih =>
    rw [digits]
    split
    · simp
    · have : v / 128 < Nat.pow 128 (n + 1) :=
        Nat.div_lt_of_lt_mul (Nat.mul_comm 128 _ ▸ (show v < Nat.pow 128 (n + 1) * 128 from h))
      simp only [List.length_cons]
      exact Nat.succ_le_succ (ih _ this)

theorem length_encode_le (v : UInt64) : (encode v).length ≤ maxLength :=
  length_digits_le 9 v.toNat (Nat.lt_trans v.toNat_lt (by decide))

end ColumnWire.Varint

import ColumnWire.Bytes.Varint

/-!
# Which bytes spell a number

A numeral is a run of marked bytes and one that is not marked, which may only be one bit where there
is no room for more. What its digits come to fits into the bits that there is room for
(`Numeral.value_lt`). Every number has a numeral, its written form, and any other is longer
(`exists_digits`, `digits_shortest`). The written form is also what comes out if the bits of a machine
word are shifted out of it (`ofWord_eq`).
-/
namespace ColumnWire.Varint

/-- What digits come to: a byte counts for its low seven bits, and the first one weighs least. -/
def value : Bytes → Nat
  | [] => 0
  | b :: digits => b.toNat % 128 + 128 * value digits

/-- Bytes that are read as one number where at most `k` of them may be marked: the last is not, and if
no more may come it is one bit. -/
structure Numeral (k : Nat) (marked : Bytes) (last : UInt8) : Prop where
  isMarked : ∀ b ∈ marked, 128 ≤ b
  isLast : last < 128
  length_le : marked.length ≤ k
  isBit : marked.length = k → last ≤ 1

variable {k v : Nat} {marked bs : Bytes} {last b : UInt8}

theorem Numeral.tail (h : Numeral (k + 1) (b :: marked) last) : Numeral k marked last := by
  refine ⟨fun c hc => h.isMarked c (List.mem_cons_of_mem b hc), h.isLast, ?_, ?_⟩
  · exact Nat.le_of_succ_le_succ h.length_le
  · intro hlength
    exact h.isBit (congrArg (· + 1) hlength)

theorem Numeral.cons (hb : 128 ≤ b) (h : Numeral k marked last) :
    Numeral (k + 1) (b :: marked) last := by
  refine ⟨List.forall_mem_cons.mpr ⟨hb, h.isMarked⟩, h.isLast, ?_, ?_⟩
  · exact Nat.succ_le_succ h.length_le
  · intro hlength
    exact h.isBit (Nat.succ.inj hlength)

/-- A digit alone is a numeral; where no more may come, it has to be a bit. -/
theorem Numeral.single (hv : v < 128) (hroom : k = 0 → v < 2) : Numeral k [] (UInt8.ofNat v) := by
  have hbyte : (UInt8.ofNat v).toNat = v := UInt8.toNat_ofNat_of_lt (Nat.lt_trans hv (by decide))
  refine ⟨by simp, ?_, Nat.zero_le k, fun hk => ?_⟩
  · rw [UInt8.lt_iff_toNat_lt, hbyte]
    exact hv
  · rw [UInt8.le_iff_toNat_le, hbyte]
    exact Nat.le_of_lt_succ (hroom hk.symm)

/-- Room for one more digit is room for seven more bits. -/
theorem pow_room (k : Nat) : Nat.pow 2 (7 * (k + 1) + 1) = 128 * Nat.pow 2 (7 * k + 1) := by
  rw [show 7 * (k + 1) + 1 = 7 + (7 * k + 1) by omega]
  exact Nat.pow_add 2 7 (7 * k + 1)

/-- **Nothing is shifted out**: what the digits come to fits into the bits that there is room for. -/
theorem Numeral.value_lt (h : Numeral k marked last) :
    value (marked ++ [last]) < Nat.pow 2 (7 * k + 1) := by
  induction marked generalizing k with
  | nil =>
    have hlast := UInt8.lt_iff_toNat_lt.mp h.isLast
    simp only [List.nil_append, value, UInt8.reduceToNat] at hlast ⊢
    cases k with
    | zero =>
      have hbit := UInt8.le_iff_toNat_le.mp (h.isBit rfl)
      simp only [UInt8.reduceToNat] at hbit
      show last.toNat % 128 + 128 * 0 < 2
      omega
    | succ k =>
      have hpos : 0 < Nat.pow 2 (7 * k + 1) := Nat.two_pow_pos _
      rw [pow_room]
      omega
  | cons b marked ih =>
    cases k with
    | zero => exact absurd h.length_le (by simp)
    | succ k =>
      have hrest := ih h.tail
      rw [List.cons_append, value, pow_room]
      omega

/-! ## How a stream of bytes begins -/

/-- How bytes begin of which at most `k` may be marked: with a numeral, with one that is too large, or
they are all marked and end too early. -/
inductive Beginning (k : Nat) : Bytes → Prop
  | numeral {marked : Bytes} {last : UInt8} (rest : Bytes) (h : Numeral k marked last) :
      Beginning k (marked ++ last :: rest)
  | large {marked : Bytes} {b : UInt8} (rest : Bytes) (hmarked : ∀ c ∈ marked, 128 ≤ c)
      (hlength : marked.length = k) (hb : 1 < b) : Beginning k (marked ++ b :: rest)
  | ended {marked : Bytes} (hmarked : ∀ c ∈ marked, 128 ≤ c) (hlength : marked.length ≤ k) :
      Beginning k marked

theorem Beginning.cons (hb : 128 ≤ b) (h : Beginning k bs) : Beginning (k + 1) (b :: bs) := by
  cases h with
  | numeral rest h => exact .numeral rest (h.cons hb)
  | large rest hmarked hlength hlarge =>
    exact .large rest (List.forall_mem_cons.mpr ⟨hb, hmarked⟩) (congrArg (· + 1) hlength) hlarge
  | ended hmarked hlength =>
    exact .ended (List.forall_mem_cons.mpr ⟨hb, hmarked⟩) (Nat.succ_le_succ hlength)

/-- There is no other way to begin. -/
theorem beginning (k : Nat) (bs : Bytes) : Beginning k bs := by
  induction bs generalizing k with
  | nil => exact .ended (by simp) (Nat.zero_le k)
  | cons b bs ih =>
    have hnone : ∀ c ∈ ([] : Bytes), 128 ≤ c := by simp
    by_cases hb : b < 128
    · by_cases hbit : k = 0 → b ≤ 1
      · have hsingle : Numeral k [] b := ⟨hnone, hb, Nat.zero_le k, fun hk => hbit hk.symm⟩
        exact .numeral bs hsingle
      · obtain ⟨rfl, hlarge⟩ := Classical.not_imp.mp hbit
        exact .large bs hnone rfl (UInt8.not_le.mp hlarge)
    · have hmarked : 128 ≤ b := UInt8.not_lt.mp hb
      cases k with
      | zero =>
        have hlarge : 1 < b := UInt8.lt_of_lt_of_le (by decide) hmarked
        exact .large bs hnone rfl hlarge
      | succ k => exact (ih k).cons hmarked

/-! ## The written form -/

/-- The written form of a number is one of its numerals. -/
theorem exists_digits (hv : v < Nat.pow 2 (7 * k + 1)) :
    ∃ marked last, digits v = marked ++ [last] ∧ Numeral k marked last ∧ value (digits v) = v := by
  induction v using digits.induct generalizing k with
  | case1 v hlast =>
    have hroom : k = 0 → v < 2 := by
      rintro rfl
      exact hv
    have hbyte : (UInt8.ofNat v).toNat = v := UInt8.toNat_ofNat_of_lt (Nat.lt_trans hlast (by decide))
    rw [digits, if_pos hlast]
    refine ⟨[], UInt8.ofNat v, rfl, .single hlast hroom, ?_⟩
    simp only [value, hbyte]
    omega
  | case2 v hlast ih =>
    cases k with
    | zero =>
      have hsmall : v < 2 := hv
      omega
    | succ k =>
      rw [pow_room] at hv
      have hbyte : (UInt8.ofNat (v % 128 + 128)).toNat = v % 128 + 128 :=
        UInt8.toNat_ofNat_of_lt (by simp only [UInt8.size]; omega)
      obtain ⟨marked, last, hdigits, hnumeral, hvalue⟩ := ih (Nat.div_lt_of_lt_mul hv)
      rw [digits, if_neg hlast]
      refine ⟨UInt8.ofNat (v % 128 + 128) :: marked, last, ?_, hnumeral.cons ?_, ?_⟩
      · rw [hdigits, List.cons_append]
      · rw [UInt8.le_iff_toNat_le, hbyte]
        exact Nat.le_add_left 128 _
      · rw [value, hvalue, hbyte]
        omega

/-- **The written form is the shortest**: whatever digits come to a number, there are at least as many
of them, and as many only if they are the written form. -/
theorem digits_shortest (hmarked : ∀ b ∈ marked, 128 ≤ b) (hlast : last < 128) :
    (digits (value (marked ++ [last]))).length ≤ (marked ++ [last]).length ∧
      ((marked ++ [last]).length = (digits (value (marked ++ [last]))).length →
        marked ++ [last] = digits (value (marked ++ [last]))) := by
  induction marked with
  | nil =>
    have hsmall := UInt8.lt_iff_toNat_lt.mp hlast
    simp only [UInt8.reduceToNat] at hsmall
    have hvalue : value [last] = last.toNat := by
      simp only [value]
      omega
    rw [List.nil_append, hvalue, digits, if_pos hsmall, UInt8.ofNat_toNat]
    exact ⟨Nat.le_refl _, fun _ => rfl⟩
  | cons b marked ih =>
    obtain ⟨hb, hmarked⟩ := List.forall_mem_cons.mp hmarked
    obtain ⟨hle, heq⟩ := ih hmarked
    have hlarge := UInt8.le_iff_toNat_le.mp hb
    simp only [UInt8.reduceToNat] at hlarge
    have hbound := b.toNat_lt
    have hvalue : value (b :: marked ++ [last]) = b.toNat % 128 + 128 * value (marked ++ [last]) := rfl
    rw [hvalue, digits]
    by_cases hsmall : b.toNat % 128 + 128 * value (marked ++ [last]) < 128
    · -- Then the other digits are all zero, and one digit would do.
      rw [if_pos hsmall]
      refine ⟨by simp, fun hlength => ?_⟩
      simp at hlength
    · have hdiv : (b.toNat % 128 + 128 * value (marked ++ [last])) / 128 = value (marked ++ [last]) := by
        omega
      have hbyte : UInt8.ofNat ((b.toNat % 128 + 128 * value (marked ++ [last])) % 128 + 128) = b := by
        apply UInt8.toNat_inj.mp
        rw [UInt8.toNat_ofNat']
        omega
      rw [if_neg hsmall, hdiv, hbyte]
      refine ⟨Nat.succ_le_succ hle, fun hlength => ?_⟩
      exact congrArg (b :: ·) (heq (Nat.succ.inj hlength))

/-! ## On the bits of a machine word -/

/-- The written form, as the bits of a word are shifted out of it. -/
def ofWord (v : UInt64) : Bytes :=
  if 0x80 ≤ v then (v.toUInt8 ||| 0x80) :: ofWord (v >>> 7) else [v.toUInt8]
termination_by v.toNat
decreasing_by
  rename_i hlarge
  have hlarge := UInt64.le_iff_toNat_le.mp hlarge
  rw [UInt64.toNat_shiftRight]
  simp [Nat.shiftRight_eq_div_pow] at hlarge ⊢
  omega

/-- A byte is marked by its highest bit. -/
theorem or_mark (b : UInt8) : b ||| 0x80 = UInt8.ofNat (b.toNat % 128 + 128) := by
  have hmark : ∀ n : Fin 256, n.val ||| 128 = n.val % 128 + 128 := by decide +kernel
  apply UInt8.toNat_inj.mp
  rw [UInt8.toNat_or, UInt8.toNat_ofNat']
  simp only [UInt8.reduceToNat]
  rw [hmark ⟨b.toNat, b.toNat_lt⟩]
  simp only
  omega

/-- The written form can be made from bits. -/
theorem ofWord_eq (v : UInt64) : ofWord v = encode v := by
  induction v using ofWord.induct with
  | case1 v hlarge ih =>
    have hbound := UInt64.le_iff_toNat_le.mp hlarge
    simp only [UInt64.reduceToNat] at hbound
    have hshift : (v >>> 7).toNat = v.toNat / 128 := by
      simp [Nat.shiftRight_eq_div_pow]
    have hlow : v.toUInt8.toNat % 128 = v.toNat % 128 := by
      rw [UInt64.toNat_toUInt8]
      omega
    have hdigits : digits v.toNat = UInt8.ofNat (v.toNat % 128 + 128) :: digits (v.toNat / 128) := by
      rw [digits, if_neg (by omega)]
    rw [ofWord, if_pos hlarge, ih, encode, encode, hshift, or_mark, hlow, hdigits]
  | case2 v hsmall =>
    have hbound := UInt64.lt_iff_toNat_lt.mp (UInt64.not_le.mp hsmall)
    simp only [UInt64.reduceToNat] at hbound
    rw [ofWord, if_neg hsmall, encode, digits, if_pos hbound]
    rfl

end ColumnWire.Varint

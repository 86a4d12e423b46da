import ColumnWire.Proofs.Stream.Outcome
import ColumnWire.Proofs.Stream.Value
import Mathlib.Algebra.BigOperators.Fin
import Mathlib.Tactic.Ring

/-!
# Numbers of variable length are read exactly

A reader outside of a region stands in front of one of three beginnings: a numeral, nine marked bytes
and one that is too large, or fewer than ten marked bytes and the end of the stream. Each decides what
the decoder does (`varint_cases`). So a number is read just where a numeral stands, there are two ways
to fail, and what is written of a number is the shortest that is read as it (`varint_exact`).
-/
namespace ColumnWire

theorem Varint.value_eq_sum (digits : Bytes) :
    value digits = ∑ i : Fin digits.length, digits[i].toNat % 128 * 128 ^ (i : ℕ) := by
  induction digits with
  | nil => rfl
  | cons b digits ih =>
    have hsplit : ∑ i : Fin (b :: digits).length, (b :: digits)[i].toNat % 128 * 128 ^ (i : ℕ) =
        b.toNat % 128 * 128 ^ 0 + ∑ i : Fin digits.length, digits[i].toNat % 128 * 128 ^ (i + 1 : ℕ) :=
      Fin.sum_univ_succ (n := digits.length) _
    rw [hsplit, value, ih, Finset.mul_sum, pow_zero, mul_one]
    refine congrArg _ (Finset.sum_congr rfl fun i _ => ?_)
    ring

/-- Only a stream that falls silent runs into the limit. -/
theorem Ending.error_eq_io {ending : Ending} (hending : ending ≠ .silent) (limit : Option Duration) :
    ∃ fault, ending.error limit = .io fault := by
  cases ending with
  | closed => exact ⟨.closed, rfl⟩
  | silent => exact absurd rfl hending
  | broken fault => exact ⟨fault, rfl⟩

namespace Decoder

open Reader Varint

variable {stop rd rd' : Reader Cursor} {k value weight : Nat} {marked : Bytes} {last b : UInt8}
  {v : UInt64} {e : Error}

/-! ## What the decoder does with each beginning -/

/-- A stream that has ended in front of a byte fails as it ended. -/
theorem byte_ended (hout : stop.region = none) (hempty : stop.source.bytes = []) :
    byte stop = .error (stop.source.ending.error stop.limit) stop := by
  obtain ⟨⟨bytes, ending⟩, limit, compression, region⟩ := stop
  obtain rfl : bytes = [] := hempty
  obtain rfl : region = none := hout
  rfl

/-- Behind a marked digit the others are read, if others may come. -/
theorem varintFrom_marked (hout : stop.region = none) (hb : 128 ≤ b) (bs : Bytes) :
    varintFrom (k + 2) value weight (stop.before (b :: bs)) =
      varintFrom (k + 1) (value + weight * (b.toNat % 128)) (128 * weight) (stop.before bs) := by
  refine ((reads_byte b).bind_before hout _ bs).trans ?_
  rw [if_neg (by simp), if_neg (UInt8.not_lt.mpr hb)]

/-- A digit that is more than the one bit there is room for is refused, right behind it. -/
theorem varintFrom_large (hout : stop.region = none) (hmarked : ∀ c ∈ marked, 128 ≤ c) (hb : 1 < b) :
    varintFrom (marked.length + 1) value weight (stop.before (marked ++ [b])) =
      .error (.protocol .varintOverflow) stop := by
  induction marked generalizing value weight with
  | nil =>
    refine ((reads_byte b).bind_before hout _ []).trans ?_
    rw [if_pos ⟨rfl, hb⟩]
    rfl
  | cons c marked ih =>
    obtain ⟨hc, hmarked⟩ := List.forall_mem_cons.mp hmarked
    exact (varintFrom_marked hout hc _).trans (ih hmarked)

/-- A stream that ends behind marked digits fails as it ended. -/
theorem varintFrom_ended (hout : stop.region = none) (hempty : stop.source.bytes = [])
    (hmarked : ∀ c ∈ marked, 128 ≤ c) (hlength : marked.length ≤ k) :
    varintFrom (k + 1) value weight (stop.before marked) =
      .error (stop.source.ending.error stop.limit) stop := by
  induction marked generalizing k value weight with
  | nil => exact bind_eq_error.mpr (.inl (byte_ended hout hempty))
  | cons c marked ih =>
    obtain ⟨hc, hmarked⟩ := List.forall_mem_cons.mp hmarked
    cases k with
    | zero => exact absurd hlength (by simp)
    | succ k => exact (varintFrom_marked hout hc _).trans (ih hmarked (Nat.le_of_succ_le_succ hlength))

/-! ## On the bits of a machine word -/

/-- Read digits into a word: the seven bits of each are put above those that are there, which `shift`
counts. The tenth digit may only hold one bit. -/
def varintBits {σ : Type} [Source σ] : (digitsLeft : Nat) → (bits shift : UInt64) → Decoder σ UInt64
  | 0, _, _ => throw (.protocol .varintOverflow)
  | digitsLeft + 1, bits, shift => do
    let b ← byte
    if digitsLeft = 0 ∧ 1 < b then throw (.protocol .varintOverflow)
    else
      let bits := bits ||| (b &&& 0x7F).toUInt64 <<< shift
      if b < 0x80 then return bits
      else varintBits digitsLeft bits (shift + 7)

/-- Bits that fit above those that are there are added to them, and none is lost. -/
theorem toNat_or_shift {bits shift : UInt64} (hbits : bits.toNat < 2 ^ shift.toNat)
    (hshift : shift.toNat < 64) (hfits : b.toNat % 128 * 2 ^ shift.toNat < 2 ^ 64) :
    (bits ||| (b &&& 0x7F).toUInt64 <<< shift).toNat =
      bits.toNat + 2 ^ shift.toNat * (b.toNat % 128) := by
  have hlow : (b &&& 0x7F).toNat = b.toNat % 128 := by
    rw [UInt8.toNat_and]
    exact Nat.and_two_pow_sub_one_eq_mod b.toNat 7
  rw [UInt64.toNat_or, UInt64.toNat_shiftLeft, UInt8.toNat_toUInt64, hlow, Nat.mod_eq_of_lt hshift,
    Nat.shiftLeft_eq, Nat.mod_eq_of_lt hfits, Nat.or_comm, Nat.mul_comm,
    ← Nat.two_pow_add_eq_or_of_lt hbits, Nat.add_comm]

/-- The bits of a word are what the digits came to, and a shift is a weight. -/
theorem varintBits_eq {σ : Type} [Source σ] (k : Nat) {bits shift : UInt64}
    (hshift : shift.toNat + 7 * k = 70) (hbits : bits.toNat < 2 ^ shift.toNat) :
    varintBits (σ := σ) k bits shift = varintFrom k bits.toNat (2 ^ shift.toNat) := by
  induction k generalizing bits shift with
  | zero => rfl
  | succ k ih =>
    rw [varintBits, varintFrom]
    refine congrArg _ (funext fun b => ?_)
    by_cases hlarge : k = 0 ∧ 1 < b
    · rw [if_pos hlarge, if_pos hlarge]
    · have hdigit : b.toNat % 128 ≤ 127 := Nat.le_of_lt_succ (Nat.mod_lt _ (by decide))
      have hfits : b.toNat % 128 * 2 ^ shift.toNat < 2 ^ 64 := by
        by_cases hk : k = 0
        · -- The tenth digit has one bit, and that is the highest of the word.
          have hbit := UInt8.le_iff_toNat_le.mp (UInt8.not_lt.mp fun hb => hlarge ⟨hk, hb⟩)
          have hhigh : shift.toNat = 63 := by omega
          rw [hhigh]
          simp only [UInt8.reduceToNat] at hbit
          omega
        · have hpow : 2 ^ shift.toNat ≤ 2 ^ 56 := Nat.pow_le_pow_right (by decide) (by omega)
          have hmul := Nat.mul_le_mul hdigit hpow
          omega
      have hsum := toNat_or_shift hbits (by omega) hfits
      rw [if_neg hlarge, if_neg hlarge]
      by_cases hlast : b < 128
      · have hwhole : b.toNat % 128 = b.toNat := Nat.mod_eq_of_lt (UInt8.lt_iff_toNat_lt.mp hlast)
        rw [if_pos hlast, if_pos hlast, ← hwhole, ← hsum, UInt64.ofNat_toNat]
      · have hnext : (shift + 7).toNat = shift.toNat + 7 := by
          rw [UInt64.toNat_add]
          simp
          omega
        have hpow : 2 ^ (shift.toNat + 7) = 128 * 2 ^ shift.toNat := by ring
        rw [if_neg hlast, if_neg hlast, ih (by omega) ?_, hsum, hnext, hpow]
        have hmul := Nat.mul_le_mul_left (2 ^ shift.toNat) hdigit
        rw [hsum, hnext, hpow]
        omega

/-- The decoder can be run on bits. -/
theorem varintBits_ten {σ : Type} [Source σ] : varintBits (σ := σ) 10 0 0 = varint :=
  varintBits_eq 10 rfl (by decide)

/-! ## Exactly the numbers of 64 bits -/

theorem exists_varint (h : Numeral 9 marked last) :
    ∃ v : UInt64, v.toNat = Varint.value (marked ++ [last]) ∧ Reads varint (marked ++ [last]) v := by
  have hread := reads_numeral h 0 1
  rw [Nat.zero_add, Nat.one_mul] at hread
  exact ⟨_, UInt64.toNat_ofNat_of_lt h.value_lt, hread⟩

theorem varint_numeral (hout : stop.region = none) (h : Numeral 9 marked last)
    (hv : v.toNat = Varint.value (marked ++ [last])) :
    varint (stop.before (marked ++ [last])) = .ok v stop := by
  obtain ⟨v', hv', hread⟩ := exists_varint h
  obtain rfl : v = v' := UInt64.toNat_inj.mp (hv.trans hv'.symm)
  exact hread.eq_ok_before hout

theorem varint_large (hout : stop.region = none) (hlength : marked.length = 9)
    (hmarked : ∀ c ∈ marked, 128 ≤ c) (hb : 1 < b) :
    varint (stop.before (marked ++ [b])) = .error (.protocol .varintOverflow) stop := by
  have hread : varintFrom (marked.length + 1) 0 1 (stop.before (marked ++ [b])) =
      .error (.protocol .varintOverflow) stop := varintFrom_large hout hmarked hb
  rwa [hlength] at hread

theorem varint_ended (hout : stop.region = none) (hempty : stop.source.bytes = [])
    (hlength : marked.length < 10) (hmarked : ∀ c ∈ marked, 128 ≤ c) :
    varint (stop.before marked) = .error (stop.source.ending.error stop.limit) stop :=
  varintFrom_ended hout hempty hmarked (Nat.le_of_lt_succ hlength)

/-- Each beginning of a stream decides what is read of it, and how far. -/
theorem varint_cases (hout : rd.region = none) :
    (∃ marked last stop v, Numeral 9 marked last ∧ v.toNat = Varint.value (marked ++ [last]) ∧
      rd = stop.before (marked ++ [last]) ∧ varint rd = .ok v stop) ∨
    (∃ marked b stop, marked.length = 9 ∧ (∀ c ∈ marked, 128 ≤ c) ∧ 1 < b ∧
      rd = stop.before (marked ++ [b]) ∧ varint rd = .error (.protocol .varintOverflow) stop) ∨
    ∃ marked stop, marked.length < 10 ∧ (∀ c ∈ marked, 128 ≤ c) ∧ stop.source.bytes = [] ∧
      rd = stop.before marked ∧ varint rd = .error (rd.source.ending.error rd.limit) stop := by
  generalize hbytes : rd.source.bytes = bytes
  cases beginning 9 bytes with
  | @numeral marked last rest hnumeral =>
    obtain ⟨v, hv, -⟩ := exists_varint hnumeral
    obtain ⟨stop, rfl, -⟩ := exists_before (hbytes.trans (List.append_cons marked last rest))
    rw [region_before] at hout
    exact .inl ⟨marked, last, stop, v, hnumeral, hv, rfl, varint_numeral hout hnumeral hv⟩
  | @large marked b rest hmarked hlength hb =>
    obtain ⟨stop, rfl, -⟩ := exists_before (hbytes.trans (List.append_cons marked b rest))
    rw [region_before] at hout
    exact .inr (.inl ⟨marked, b, stop, hlength, hmarked, hb, rfl, varint_large hout hlength hmarked hb⟩)
  | ended hmarked hlength =>
    obtain ⟨stop, rfl, hempty⟩ := exists_before (hbytes.trans (List.append_nil bytes).symm)
    rw [region_before] at hout
    have hlength := Nat.lt_succ_of_le hlength
    exact .inr (.inr ⟨bytes, stop, hlength, hmarked, hempty, rfl, varint_ended hout hempty hlength hmarked⟩)

/-- A number is read just where a numeral stands. -/
theorem varint_eq_ok_iff (hout : rd.region = none) :
    varint rd = .ok v rd' ↔ ∃ marked last, Numeral 9 marked last ∧
      rd = rd'.before (marked ++ [last]) ∧ v.toNat = Varint.value (marked ++ [last]) := by
  constructor
  · intro h
    rcases varint_cases hout with ⟨marked, last, stop, v', hnumeral, hv, hrd, hread⟩ |
      ⟨-, -, stop, -, -, -, -, hread⟩ | ⟨-, stop, -, -, -, -, hread⟩
    · cases hread.symm.trans h
      exact ⟨marked, last, hnumeral, hrd, hv⟩
    · cases hread.symm.trans h
    · cases hread.symm.trans h
  · rintro ⟨marked, last, hnumeral, rfl, hv⟩
    rw [region_before] at hout
    exact varint_numeral hout hnumeral hv

/-- There are two ways to fail: a tenth digit that is too large, and a stream that ends before. -/
theorem varint_eq_error_iff (hout : rd.region = none) :
    varint rd = .error e rd' ↔
      (e = .protocol .varintOverflow ∧ ∃ marked b, marked.length = 9 ∧ (∀ c ∈ marked, 128 ≤ c) ∧
        1 < b ∧ rd = rd'.before (marked ++ [b])) ∨
      (e = rd.source.ending.error rd.limit ∧ ∃ marked, marked.length < 10 ∧ (∀ c ∈ marked, 128 ≤ c) ∧
        rd'.source.bytes = [] ∧ rd = rd'.before marked) := by
  constructor
  · intro h
    rcases varint_cases hout with ⟨-, -, stop, v, -, -, -, hread⟩ |
      ⟨marked, b, stop, hlength, hmarked, hb, hrd, hread⟩ |
      ⟨marked, stop, hlength, hmarked, hempty, hrd, hread⟩
    · cases hread.symm.trans h
    · cases hread.symm.trans h
      exact .inl ⟨rfl, marked, b, hlength, hmarked, hb, hrd⟩
    · cases hread.symm.trans h
      exact .inr ⟨rfl, marked, hlength, hmarked, hempty, hrd⟩
  · rintro (⟨rfl, marked, b, hlength, hmarked, hb, rfl⟩ | ⟨rfl, marked, hlength, hmarked, hempty, rfl⟩)
    · rw [region_before] at hout
      exact varint_large hout hlength hmarked hb
    · rw [region_before] at hout
      exact varint_ended hout hempty hlength hmarked

/-- Whatever is read as a number is at least as long as what is written of it. -/
theorem encode_shortest {bs : Bytes} (hout : stop.region = none) (h : varint (stop.before bs) = .ok v stop) :
    (Encode.varint v).length ≤ bs.length ∧
      (bs.length = (Encode.varint v).length → bs = Encode.varint v) := by
  obtain ⟨marked, last, hnumeral, hsame, hv⟩ := (varint_eq_ok_iff (by simpa using hout)).mp h
  have hbytes : bs ++ stop.source.bytes = marked ++ [last] ++ stop.source.bytes :=
    congrArg (·.source.bytes) hsame
  obtain rfl := List.append_cancel_right hbytes
  have hdigits : Encode.varint v = digits (Varint.value (marked ++ [last])) := by
    rw [← hv]
    rfl
  rw [hdigits]
  exact digits_shortest hnumeral.isMarked hnumeral.isLast

/-- **Which bytes are a number of variable length.** The decoder yields a number just if the stream
begins with marked bytes, at most nine, and one that is not marked, the tenth no more than one; the
number is what they add up to, which is less than `2 ^ 64`, and the reader stops behind them. Else
it fails: behind ten bytes if the tenth is larger, or as the stream ended if that was earlier.
What is written of a number has at most ten bytes and is read as the number whatever follows, also
inside a region, and no other byte string that is read as it is as short. Both can be done on bits. -/
theorem varint_exact :
    (∀ (rd rd' : Reader Cursor) (v : UInt64), rd.region = none →
      (varint rd = .ok v rd' ↔ ∃ marked last, Numeral 9 marked last ∧
        rd = rd'.before (marked ++ [last]) ∧ v.toNat = ∑ i : Fin (marked ++ [last]).length,
          (marked ++ [last])[i].toNat % 128 * 128 ^ (i : ℕ))) ∧
    (∀ marked last, Numeral 9 marked last →
      ∑ i : Fin (marked ++ [last]).length, (marked ++ [last])[i].toNat % 128 * 128 ^ (i : ℕ) < 2 ^ 64) ∧
    (∀ (rd rd' : Reader Cursor) (e : Error), rd.region = none →
      (varint rd = .error e rd' ↔
        (e = .protocol .varintOverflow ∧ ∃ marked b, marked.length = 9 ∧ (∀ c ∈ marked, 128 ≤ c) ∧
          1 < b ∧ rd = rd'.before (marked ++ [b])) ∨
        (e = rd.source.ending.error rd.limit ∧ ∃ marked, marked.length < 10 ∧ (∀ c ∈ marked, 128 ≤ c) ∧
          rd'.source.bytes = [] ∧ rd = rd'.before marked))) ∧
    (∀ (ending : Ending) (limit : Option Duration), ending ≠ .silent →
      ∃ fault, ending.error limit = .io fault) ∧
    (∀ v : UInt64, (Encode.varint v).length ≤ 10 ∧ Reads varint (Encode.varint v) v ∧
      ∀ stop : Reader Cursor, stop.region = none → varint (stop.before (Encode.varint v)) = .ok v stop ∧
        ∀ bs : Bytes, varint (stop.before bs) = .ok v stop → (Encode.varint v).length ≤ bs.length ∧
          (bs.length = (Encode.varint v).length → bs = Encode.varint v)) ∧
    (∀ {σ : Type} [Source σ], varintBits (σ := σ) 10 0 0 = varint) ∧
    ∀ v : UInt64, ofWord v = Encode.varint v := by
  refine ⟨?_, ?_, ?_, ?_, ?_, varintBits_ten, ofWord_eq⟩
  · intro rd rd' v hout
    simp only [varint_eq_ok_iff hout, value_eq_sum]
  · intro marked last h
    rw [← value_eq_sum]
    exact h.value_lt
  · intro rd rd' e hout
    exact varint_eq_error_iff hout
  · intro ending limit hending
    exact Ending.error_eq_io hending limit
  · intro v
    refine ⟨length_encode_le v, reads_varint v, ?_⟩
    intro stop hout
    refine ⟨(reads_varint v).eq_ok_before hout, ?_⟩
    intro bs h
    exact encode_shortest hout h

/-- Three bytes that could have been two are read all the same, ten bytes can be too many, and two
marked bytes are too few. -/
theorem varint_exact_overlong :
    let stop : Reader Cursor := { source := { bytes := [7], ending := .closed } }
    let empty : Reader Cursor := { source := { bytes := [], ending := .closed } }
    varint (stop.before [0x85, 0x81, 0x00]) = .ok 133 stop ∧
      Encode.varint 133 = [0x85, 0x01] ∧
      varint (stop.before (List.replicate 9 0xFF ++ [2])) = .error (.protocol .varintOverflow) stop ∧
      varint (empty.before [0x85, 0x81]) = .error (.io .closed) empty ∧
      ∑ i : Fin (List.replicate 9 (0xFF : UInt8) ++ [1]).length,
        (List.replicate 9 (0xFF : UInt8) ++ [1])[i].toNat % 128 * 128 ^ (i : ℕ) < 2 ^ 64 ∧
      (∃ fault, Ending.closed.error none = .io fault) ∧
      (Encode.varint 133).length ≤ [0x85, 0x81, 0x00].length := by
  intro stop empty
  obtain ⟨hok, hlt, herror, hio, hwritten, -, -⟩ := varint_exact
  have hoverlong : varint (stop.before [0x85, 0x81, 0x00]) = .ok 133 stop :=
    (hok (stop.before [0x85, 0x81, 0x00]) stop 133 rfl).mpr
      ⟨[0x85, 0x81], 0, ⟨by decide +kernel, by decide, by decide, by decide⟩, rfl, by decide⟩
  refine ⟨hoverlong, ?_, ?_, ?_, ?_, ?_, ?_⟩
  · simp [Encode.varint, Varint.encode, Varint.digits]
  · exact (herror _ stop _ rfl).mpr
      (.inl ⟨rfl, List.replicate 9 0xFF, 2, by decide, by decide +kernel, by decide, rfl⟩)
  · exact (herror _ empty _ rfl).mpr (.inr ⟨rfl, [0x85, 0x81], by decide, by decide +kernel, rfl, rfl⟩)
  · exact hlt (List.replicate 9 0xFF) 1 ⟨by decide +kernel, by decide, by decide, by decide⟩
  · exact hio .closed none (by decide)
  · exact (((hwritten 133).2.2 stop rfl).2 [0x85, 0x81, 0x00] hoverlong).1

end Decoder

end ColumnWire

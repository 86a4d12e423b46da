import ColumnWire.Bytes.Encode
import ColumnWire.Proofs.Bytes.Varint
import ColumnWire.Proofs.Stream.Offer

/-!
# Single values are read as they were written

For each kind of value: wherever its written form is offered, its decoder yields the value
and stops right behind it. Byte strings and texts are read up to a length, and that is the
only limit.
-/
namespace ColumnWire.Decoder

theorem reads_byte (b : UInt8) : Reads byte [b] b := (Reads.take [b]).bind_last (.pure b)

theorem reads_bool (b : Bool) : Reads bool (Encode.bool b) b := by
  have hvalue : (pure ((if b then 1 else 0 : UInt8) != 0) : Decoder Cursor Bool) = pure b := by
    cases b <;> rfl
  refine (reads_byte _).bind_last ?_
  rw [hvalue]
  exact .pure b

/-- A number that fits into so many bytes. -/
theorem reads_word {n v : Nat} (h : v < Nat.pow 256 n) :
    Reads (word n) (LittleEndian.encode n v) v := by
  have htake := Reads.take (LittleEndian.encode n v)
  rw [LittleEndian.length_encode] at htake
  refine htake.bind_last ?_
  rw [LittleEndian.decode_encode, Nat.mod_eq_of_lt h]
  exact .pure v

theorem reads_int32 (v : Int32) : Reads int32 (Encode.int32 v) v := by
  have hword : Reads uint32 (Encode.int32 v) v.toUInt32 := by
    refine (reads_word v.toUInt32.toNat_lt).bind_last ?_
    rw [UInt32.ofNat_toNat]
    exact .pure _
  refine hword.bind_last ?_
  rw [Int32.toInt32_toUInt32]
  exact .pure v

/-- A numeral is read as what its digits come to. -/
theorem reads_numeral {k : Nat} {marked : Bytes} {last : UInt8} (h : Varint.Numeral k marked last)
    (value weight : Nat) :
    Reads (varintFrom (k + 1) value weight) (marked ++ [last])
      (UInt64.ofNat (value + weight * Varint.value (marked ++ [last]))) := by
  induction marked generalizing k value weight with
  | nil =>
    have hlast := UInt8.lt_iff_toNat_lt.mp h.isLast
    have hvalue : Varint.value [last] = last.toNat := by
      simp only [Varint.value, UInt8.reduceToNat] at hlast ⊢
      omega
    rw [List.nil_append, hvalue]
    refine (reads_byte last).bind_last (.ofElse ?_ (.ofIf h.isLast (.pure _)))
    rintro ⟨rfl, hlarge⟩
    exact UInt8.not_lt.mpr (h.isBit rfl) hlarge
  | cons b marked ih =>
    cases k with
    | zero => exact absurd h.length_le (by simp)
    | succ k =>
      have hrest := ih h.tail (value + weight * (b.toNat % 128)) (128 * weight)
      have hvalue : value + weight * (b.toNat % 128) + 128 * weight * Varint.value (marked ++ [last]) =
          value + weight * Varint.value (b :: marked ++ [last]) := by
        rw [List.cons_append, Varint.value, Nat.mul_add, Nat.mul_comm 128 weight, Nat.mul_assoc,
          Nat.add_assoc]
      have hmarked : ¬ b < 128 := UInt8.not_lt.mpr (h.isMarked b List.mem_cons_self)
      rw [hvalue] at hrest
      exact (reads_byte b).bind (.ofElse (by simp) (.ofElse hmarked hrest))

theorem reads_varint (v : UInt64) : Reads varint (Encode.varint v) v := by
  obtain ⟨marked, last, hdigits, hnumeral, hvalue⟩ := Varint.exists_digits (k := 9) v.toNat_lt
  have hread := reads_numeral hnumeral 0 1
  rwa [← hdigits, hvalue, Nat.zero_add, Nat.one_mul, UInt64.ofNat_toNat] at hread

/-- A count of at most 64 bits. -/
theorem reads_count {n : Nat} (h : n < UInt64.size) :
    ∃ v : UInt64, Reads varint (Encode.count n) v ∧ v.toNat = n :=
  ⟨UInt64.ofNat n, reads_varint _, UInt64.toNat_ofNat_of_lt h⟩

theorem reads_bytes {n : Nat} {bs : Bytes} (hn : bs.length = n) (hsize : n ≤ maxTextSize) :
    Reads (bytes n) bs bs := by
  subst hn
  exact .ofElse (by omega) (.take bs)

theorem reads_textBytes {bs : Bytes} (hsize : bs.length ≤ maxTextSize) :
    Reads textBytes (Encode.textBytes bs) bs := by
  obtain ⟨v, hv, hlength⟩ := reads_count (n := bs.length) (by simp only [maxTextSize, UInt64.size] at hsize ⊢; omega)
  refine hv.bind (.ofElse (by omega) ?_)
  rw [hlength]
  exact .take bs

theorem reads_text {s : String} (hsize : (Utf8.encode s).length ≤ maxTextSize) :
    Reads text (Encode.text s) s := by
  refine (reads_textBytes hsize).bind_last ?_
  rw [Utf8.decode_encode]
  exact .pure s

end ColumnWire.Decoder

import ColumnWire.Column.Data
import ColumnWire.Proofs.Stream.Outcome
import ColumnWire.Proofs.Stream.Value

/-!
# The cells of a column, written and read

A column that has been read has the type and the number of cells that were asked for
(`yields_read`), whatever the bytes were. A column that has been written is read back with the
same cells, byte strings filled up to the width of the column (`reads_read`).
-/
namespace ColumnWire

namespace Bytes

theorem chunks_append {n : Nat} {bs : Bytes} (hn : 0 < n) (hbs : bs.length = n) (rest : Bytes) :
    chunks n (bs ++ rest) = bs :: chunks n rest := by
  obtain ⟨b, tail, rfl⟩ := List.exists_cons_of_length_pos (by omega : 0 < bs.length)
  have htail : tail.length = n - 1 := by
    rw [List.length_cons] at hbs
    omega
  rw [List.cons_append, chunks_cons, List.drop_left' htail, ← List.cons_append, List.take_left' hbs]

theorem chunks_flatMap {α : Type} {n : Nat} (encode : α → Bytes) (hn : 0 < n)
    (hlength : ∀ a, (encode a).length = n) (items : List α) :
    chunks n (items.flatMap encode) = items.map encode := by
  induction items with
  | nil => rw [List.flatMap_nil, chunks_nil, List.map_nil]
  | cons a items ih => rw [List.flatMap_cons, chunks_append hn (hlength a), ih, List.map_cons]

theorem length_chunks_of_mul {n k : Nat} {bs : Bytes} (hn : 0 < n) (hbs : bs.length = n * k) :
    (chunks n bs).length = k := by
  have hnone : (n - 1) / n = 0 := Nat.div_eq_of_lt (by omega)
  rw [length_chunks hn, hbs, Nat.add_sub_assoc hn, Nat.mul_add_div hn, hnone, Nat.add_zero]

end Bytes

namespace ColumnData

/-! ## Whatever is read is a column -/

theorem size_ofPayload {kind : Scalar} {rows : Nat} {payload : Bytes}
    (h : payload.length = kind.size * rows) : (ofPayload kind payload).size = rows := by
  rw [ofPayload, List.size_toArray, List.length_map, Bytes.length_chunks_of_mul kind.size_pos h]

/-- Pushing so many items onto an array makes it longer by as many, each with what holds of all items. -/
theorem pushes_eq_ok {σ α : Type} {item : Decoder σ α} {P : α → Prop} (hitem : Yields P item)
    {count : Nat} {s s' : Reader σ × Array α} (h : Builder.pushes item count s = .ok () s')
    (hs : ∀ a ∈ s.2, P a) : s'.2.size = s.2.size + count ∧ ∀ a ∈ s'.2, P a := by
  induction count generalizing s with
  | zero =>
    cases h
    exact ⟨rfl, hs⟩
  | succ count ih =>
    rw [Builder.pushes_succ] at h
    obtain ⟨a, s₁, hfirst, h⟩ := bind_eq_ok.mp h
    obtain ⟨rd, ha, rfl⟩ := Builder.reading_eq_ok hfirst
    obtain ⟨u, s₂, hpush, h⟩ := bind_eq_ok.mp h
    cases hpush
    have hpushed : ∀ b ∈ s.2.push a, P b := by
      intro b hb
      rcases Array.mem_push.mp hb with hb | rfl
      · exact hs b hb
      · exact hitem ha
    obtain ⟨hsize, hall⟩ := ih h hpushed
    simp only [Array.size_push] at hsize
    exact ⟨by omega, hall⟩

/-- The column has such a type and so many cells, none of them too wide. -/
structure Shaped (type : ColumnType) (rows : Nat) (data : ColumnData) : Prop where
  type_eq : data.type = type
  size_eq : data.size = rows
  narrow : data.tooWide? = none

variable {σ : Type} [Source σ]

theorem yields_payload (kind : Scalar) (rows : Nat) :
    Yields (·.length = kind.size * rows) (payload (σ := σ) kind rows) := by
  intro rd rd' bs h
  unfold payload at h
  split at h
  · exact absurd h throw_ne_ok
  · exact Decoder.yields_bytes _ h

/-- **What is read is a column of the type and the size that were asked for.** -/
theorem yields_read (type : ColumnType) (rows : Nat) :
    Yields (Shaped type rows) (read (σ := σ) type rows) := by
  intro rd rd' data h
  have hread := Builder.fresh_eq_ok h
  cases type with
  | scalar kind =>
    obtain ⟨bs, s₁, hpayload, hput⟩ := bind_eq_ok.mp hread
    obtain ⟨rd₂, hpayload, -⟩ := Builder.reading_eq_ok hpayload
    cases hput
    exact ⟨rfl, size_ofPayload (yields_payload kind rows hpayload), rfl⟩
  | string =>
    rw [readInto] at hread
    obtain ⟨cells, hpushes, rfl⟩ := Builder.within_eq_ok hread
    have hsize := (pushes_eq_ok (P := fun _ => True) (fun _ => trivial) hpushes (by simp)).1
    exact ⟨rfl, by simpa [size] using hsize, rfl⟩
  | fixedString width =>
    rw [readInto] at hread
    obtain ⟨cells, hpushes, rfl⟩ := Builder.within_eq_ok hread
    obtain ⟨hsize, hall⟩ := pushes_eq_ok (Decoder.yields_bytes width) hpushes (by simp)
    refine ⟨rfl, by simpa [size] using hsize, ?_⟩
    have hnone : cells.find? (fun v => width < v.length) = none := by
      rw [Array.find?_eq_none]
      intro v hv
      simp [hall v hv]
    rw [tooWide?, hnone, Option.map_none]

/-! ## What is written is read -/

/-- The column as it comes back: byte strings are filled up with zeros. -/
def padded : ColumnData → ColumnData
  | .fixedStrings width cells =>
    .fixedStrings width (cells.map fun v => v ++ List.replicate (width - v.length) 0)
  | data => data

/-- The column can be read back: no text, no byte string and no payload of scalars is too long. -/
def WithinLimits : ColumnData → Prop
  | .scalars kind cells => kind.size * cells.size ≤ maxTextSize
  | .strings cells => ∀ s ∈ cells, (Utf8.encode s).length ≤ maxTextSize
  | .fixedStrings width _ => width ≤ maxTextSize

theorem length_pad (width : Nat) (bs : Bytes) : (pad width bs).length = width := by
  rw [pad, List.length_append, List.length_take, List.length_replicate]
  omega

/-- Nothing is cut off a value that is not too wide. -/
theorem pad_eq {width : Nat} {bs : Bytes} (h : bs.length ≤ width) :
    pad width bs = bs ++ List.replicate (width - bs.length) 0 := by
  rw [pad, List.take_of_length_le h]

theorem ofPayload_encode (kind : Scalar) (cells : Array (BitVec (8 * kind.size))) :
    ofPayload kind (encode (.scalars kind cells)) = cells := by
  have hcell (v : BitVec (8 * kind.size)) :
      BitVec.ofNat (8 * kind.size) (LittleEndian.decode (LittleEndian.encode kind.size v.toNat)) = v := by
    have hpow : Nat.pow 256 kind.size = 2 ^ (8 * kind.size) := (Nat.pow_mul 2 8 kind.size).symm
    rw [LittleEndian.decode_encode, hpow, Nat.mod_eq_of_lt v.isLt, BitVec.ofNat_toNat,
      BitVec.setWidth_eq]
  have hchunks := Bytes.chunks_flatMap (fun v : BitVec (8 * kind.size) =>
    LittleEndian.encode kind.size v.toNat) kind.size_pos (fun v => by simp) cells.toList
  rw [ofPayload, encode, hchunks, List.map_map]
  simp [Function.comp_def, hcell]

theorem length_encode_scalars (kind : Scalar) (cells : Array (BitVec (8 * kind.size))) :
    (encode (.scalars kind cells)).length = kind.size * cells.size := by
  simp [encode, List.length_flatMap, List.map_const', Nat.mul_comm]

open Decoder Builder

theorem reads_payload {kind : Scalar} {cells : Array (BitVec (8 * kind.size))}
    (h : kind.size * cells.size ≤ maxTextSize) :
    Reads (payload kind cells.size) (encode (.scalars kind cells)) (encode (.scalars kind cells)) := by
  refine .ofElse ?_ (reads_bytes (length_encode_scalars kind cells) h)
  simp only [Digits.wordLimit, maxTextSize] at h ⊢
  omega

/-- **A column that is within the limits is read back as it was**, but for the padding. -/
theorem reads_read {data : ColumnData} (hnarrow : data.tooWide? = none) (hlimits : data.WithinLimits) :
    Reads (read data.type data.size) data.encode data.padded := by
  cases data with
  | scalars kind cells =>
    have hput : Builds (put (.scalars kind (ofPayload kind (encode (.scalars kind cells)))))
        (empty (.scalar kind)) [] () (.scalars kind cells) := by
      rw [ofPayload_encode]
      exact .put _ _
    exact Builds.fresh (.bind_last (.reading (reads_payload hlimits) _) hput)
  | strings cells =>
    have hcells := Builds.pushes Encode.text id cells.toList
      (fun s hs => reads_text (hlimits s (Array.mem_toList_iff.mp hs))) #[]
    rw [List.map_id, Array.toArray_toList, Array.empty_append, Array.length_toList] at hcells
    exact Builds.fresh (.within hcells _)
  | fixedStrings width cells =>
    have hwidth : ∀ v ∈ cells, v.length ≤ width := by
      simp only [tooWide?, Option.map_eq_none_iff, Array.find?_eq_none] at hnarrow
      intro v hv
      have := hnarrow v hv
      simpa using this
    have hcells := Builds.pushes (pad width) (pad width) cells.toList
      (fun v _ => reads_bytes (length_pad width v) hlimits) #[]
    have hpadded : cells.toList.map (pad width) =
        cells.toList.map fun v => v ++ List.replicate (width - v.length) 0 := by
      refine List.map_congr_left fun v hv => ?_
      rw [pad_eq (hwidth v (Array.mem_toList_iff.mp hv))]
    rw [hpadded, ← Array.toList_map, Array.toArray_toList, Array.empty_append,
      Array.length_toList] at hcells
    exact Builds.fresh (.within hcells _)

end ColumnData

end ColumnWire

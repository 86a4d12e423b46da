import ColumnWire.Proofs.Frame.Cut
import Mathlib.Data.List.Forall2

/-!
# A frame part by part

`Parts.Hold` says field by field which frames are valid, and the valid frames are no others
(`holds_iff`). `needed` says from the bytes of a stream how many have to arrive until a frame is
accepted or refused. The frames that are written hold the chunks of a byte string, whichever matches
the compressor takes (`Restores.frames`).
-/
namespace ColumnWire

/-! ## Chunks -/

namespace Bytes

/-- No chunk is empty, and none is longer than it may be. -/
theorem mem_chunks {n : Nat} (hn : 0 < n) {bs chunk : Bytes} (h : chunk ∈ chunks n bs) :
    chunk ≠ [] ∧ chunk.length ≤ n := by
  induction bs using chunks_induction n with
  | nil =>
    rw [chunks_nil] at h
    cases h
  | cons b bs ih =>
    rw [chunks_cons, List.mem_cons] at h
    rcases h with rfl | h
    · refine ⟨List.ne_nil_of_length_pos ?_, ?_⟩
      · rw [List.length_take, List.length_cons]
        omega
      · rw [List.length_take]
        exact Nat.min_le_left _ _
    · exact ih h

end Bytes

namespace Frame

/-! ## Which frames are valid -/

/-- What stands in a frame. -/
structure Parts where
  sum : Bytes
  method : UInt8
  /-- Bytes from the method byte to the end of the payload, as the frame says. -/
  compressedSize : Nat
  /-- Bytes of content, as the frame says. -/
  contentSize : Nat
  payload : Bytes

namespace Parts

/-- The bytes that the checksum covers. -/
def covered (p : Parts) : Bytes :=
  p.method :: (LittleEndian.encode 4 p.compressedSize ++ LittleEndian.encode 4 p.contentSize ++
    p.payload)

/-- The bytes of the frame. -/
def bytes (p : Parts) : Bytes := p.sum ++ p.covered

/-- The sizes are allowed and say what is there, the checksum is that of the bytes it covers, and the
payload stands for the content. -/
structure Hold (p : Parts) (content : Bytes) : Prop where
  header_le : 9 ≤ p.compressedSize
  compressedSize_le : p.compressedSize ≤ maxSize
  contentSize_le : p.contentSize ≤ maxSize
  length_payload : p.payload.length = p.compressedSize - 9
  sum_eq : p.sum = LittleEndian.encode 8 (CityHash.hash ⟨p.covered.toArray⟩).high.toNat ++
    LittleEndian.encode 8 (CityHash.hash ⟨p.covered.toArray⟩).low.toNat
  length_content : content.length = p.contentSize
  content_eq : p.method = 0x02 ∧ content = p.payload ∨
    p.method = 0x82 ∧ Lz4.expand p.contentSize p.payload = some content

variable {p : Parts} {content : Bytes}

theorem Hold.length_covered (h : p.Hold content) : p.covered.length = p.compressedSize := by
  have hlow := h.header_le
  have hpayload := h.length_payload
  simp only [covered, List.length_cons, List.length_append, LittleEndian.length_encode]
  omega

theorem Hold.length_bytes (h : p.Hold content) : p.bytes.length = 16 + p.compressedSize := by
  rw [bytes, List.length_append, h.length_covered, h.sum_eq, List.length_append,
    LittleEndian.length_encode, LittleEndian.length_encode]

/-- The parts of the frame that is assembled of a payload. -/
def assembled (method : UInt8) (contentSize : Nat) (payload : Bytes) : Parts :=
  ⟨checksum (body method contentSize payload), method, payload.length + headerLength, contentSize,
    payload⟩

theorem hold_assembled {method : UInt8} {contentSize : Nat} {payload : Bytes}
    (hsize : payload.length + headerLength ≤ maxSize) (hcontent : contentSize ≤ maxSize)
    (hlength : content.length = contentSize)
    (hmethod : method = 0x02 ∧ content = payload ∨
      method = 0x82 ∧ Lz4.expand contentSize payload = some content) :
    (assembled method contentSize payload).Hold content where
  header_le := Nat.le_add_left _ _
  compressedSize_le := hsize
  contentSize_le := hcontent
  length_payload := (Nat.add_sub_cancel _ _).symm
  sum_eq := rfl
  length_content := hlength
  content_eq := hmethod

end Parts

/-- **The valid frames, part by part.** -/
theorem holds_iff {frame content : Bytes} :
    Holds frame content ↔ ∃ p : Parts, p.Hold content ∧ frame = p.bytes := by
  constructor
  · intro h
    cases h with
    | stored hsize =>
      have hcontent : content.length ≤ maxSize := Nat.le_trans (Nat.le_add_right _ _) hsize
      exact ⟨_, Parts.hold_assembled hsize hcontent rfl (.inl ⟨rfl, rfl⟩), rfl⟩
    | lz4 hsize hcontent hexpand =>
      exact ⟨_, Parts.hold_assembled hsize hcontent rfl (.inr ⟨rfl, hexpand⟩), rfl⟩
  · rintro ⟨⟨sum, method, compressedSize, contentSize, payload⟩, h, rfl⟩
    obtain ⟨hlow, hcompressed, hcontent, hpayload, hsum, hlength, hmethod⟩ := h
    simp only at hlow hcompressed hcontent hpayload hlength hmethod
    obtain rfl : compressedSize = payload.length + headerLength := by
      rw [headerLength]
      omega
    subst hlength
    have hframe : Parts.bytes ⟨sum, method, payload.length + headerLength, content.length, payload⟩ =
        assemble method content.length payload := congrArg (· ++ _) hsum
    rw [hframe]
    rcases hmethod with ⟨rfl, rfl⟩ | ⟨rfl, hexpand⟩
    · exact .stored hcompressed
    · exact .lz4 hcompressed hcontent hexpand

/-! ## How many bytes have to arrive -/

/-- The size that a stream announces for all that follows the checksum. -/
def announcedSize (bs : Bytes) : Nat := LittleEndian.decode ((bs.drop 17).take 4)

/-- The size that a stream announces for the content. -/
def announcedContent (bs : Bytes) : Nat := LittleEndian.decode ((bs.drop 21).take 4)

/-- As many bytes have to arrive until a frame is accepted or refused: those in front of the payload,
and all of the frame if its sizes are allowed. -/
def needed (bs : Bytes) : Nat :=
  if 9 ≤ announcedSize bs ∧ announcedSize bs ≤ maxSize ∧ announcedContent bs ≤ maxSize then
    16 + announcedSize bs
  else 25

theorem leadLength_le_needed (bs : Bytes) : leadLength ≤ needed bs := by
  simp only [needed, leadLength, checksumLength, headerLength]
  split <;> omega

/-- Only what stands in front of the payload says how much is needed. -/
theorem needed_append {lead : Bytes} (h : lead.length = leadLength) (rest : Bytes) :
    needed (lead ++ rest) = needed lead := by
  have hlead : lead.length = 25 := h
  have hsize : announcedSize (lead ++ rest) = announcedSize lead := by
    rw [announcedSize, announcedSize, List.drop_append_of_le_length (by omega),
      List.take_append_of_le_length (by simp; omega)]
  have hcontent : announcedContent (lead ++ rest) = announcedContent lead := by
    rw [announcedContent, announcedContent, List.drop_append_of_le_length (by omega),
      List.take_append_of_le_length (by simp; omega)]
  rw [needed, needed, hsize, hcontent]

theorem Header.parse_eq (bs : Bytes) :
    parse bs = if announcedSize bs < headerLength then .error (.smallerThanHeader (announcedSize bs))
      else if maxSize < announcedSize bs ∨ maxSize < announcedContent bs then
        .error (.tooLarge (announcedSize bs) (announcedContent bs))
      else .ok ⟨bs.take checksumLength, (bs.drop checksumLength).headD 0, announcedSize bs,
        announcedContent bs⟩ := by
  have hsize : announcedSize bs = LittleEndian.decode (((bs.drop checksumLength).drop 1).take 4) := by
    rw [announcedSize, List.drop_drop, checksumLength]
  have hcontent : announcedContent bs = LittleEndian.decode (((bs.drop checksumLength).drop 5).take 4) := by
    rw [announcedContent, List.drop_drop, checksumLength]
  rw [hsize, hcontent]
  rfl

/-- Behind a header that is accepted, its payload is needed. -/
theorem needed_of_parse_ok {lead : Bytes} {header : Header} (h : Header.parse lead = .ok header) :
    needed lead = leadLength + header.payloadLength := by
  rw [Header.parse_eq] at h
  split at h
  · cases h
  · next hlow =>
    split at h
    · cases h
    · next hhigh =>
      cases h
      simp only [headerLength] at hlow
      rw [needed, if_pos (by omega)]
      simp only [Header.payloadLength, leadLength, checksumLength, headerLength]
      omega

/-- Behind a header that is refused, nothing is. -/
theorem needed_of_parse_error {lead : Bytes} {fault : FrameFault}
    (h : Header.parse lead = .error fault) : needed lead = leadLength := by
  rw [Header.parse_eq] at h
  split at h
  · next hlow =>
    rw [needed, if_neg (by simp only [headerLength] at hlow; omega)]
    rfl
  · split at h
    · next hhigh =>
      rw [needed, if_neg (by omega)]
      rfl
    · cases h

/-! ## What is written -/

/-- A frame is accepted that holds the chunk, and its sizes were not cut off. -/
structure Accepted (frame chunk : Bytes) : Prop where
  ne_nil : chunk ≠ []
  length_le : chunk.length ≤ maxChunk
  parts : ∃ p : Parts, frame = p.bytes ∧ p.method = 0x82 ∧ p.contentSize = chunk.length ∧
    p.compressedSize = 9 + p.payload.length ∧ p.compressedSize < UInt32.size ∧ p.contentSize < UInt32.size ∧
    p.Hold chunk
  decode : ∃ header, Header.parse (frame.take leadLength) = .ok header ∧
    Frame.decode header (frame.drop checksumLength) = .ok chunk

theorem Restores.accepted {compress : Bytes → Bytes} (h : Restores compress) {chunk : Bytes}
    (hne : chunk ≠ []) (hlength : chunk.length ≤ maxChunk) : Accepted (encodeBy compress chunk) chunk := by
  have hsize := h.length_lt chunk hlength
  have hexpand := h.expand chunk hlength
  have hcontent : chunk.length ≤ maxSize := Nat.le_trans hlength (by decide)
  have hsmall : (compress chunk).length + headerLength ≤ maxSize := Nat.le_of_lt hsize
  have hholds := h.holds_encodeBy hlength
  have hhold := Parts.hold_assembled hsmall hcontent rfl (.inr ⟨rfl, hexpand⟩)
  refine ⟨hne, hlength, ⟨_, rfl, rfl, rfl, Nat.add_comm _ _, ?_, ?_, hhold⟩, ?_⟩
  · exact Nat.lt_trans hsize (by decide)
  · exact Nat.lt_of_le_of_lt hlength (by decide)
  · obtain ⟨lead, payload, header, hframe, hlead, hparse, -, hdecode⟩ := hholds.exists_header
    have hshort : checksumLength ≤ lead.length := by
      rw [hlead]
      decide
    refine ⟨header, ?_, ?_⟩
    · rw [hframe, List.take_left' hlead, hparse]
    · rw [hframe, List.drop_append_of_le_length hshort, hdecode]

/-- **The frames of a byte string are accepted, and hold it chunk by chunk.** -/
theorem Restores.frames {compress : Bytes → Bytes} (h : Restores compress) (bs : Bytes) :
    ((bs.chunks maxChunk).map (encodeBy compress)).length = (bs.length + maxChunk - 1) / maxChunk ∧
      List.Forall₂ Accepted ((bs.chunks maxChunk).map (encodeBy compress)) (bs.chunks maxChunk) := by
  refine ⟨?_, List.forall₂_map_left_iff.mpr (List.forall₂_same.mpr fun chunk hchunk => ?_)⟩
  · rw [List.length_map, Bytes.length_chunks (by decide)]
  · obtain ⟨hne, hlength⟩ := Bytes.mem_chunks (by decide) hchunk
    exact h.accepted hne hlength

end Frame

end ColumnWire

import ColumnWire.Frame
import ColumnWire.Proofs.Frame.Lz4

/-!
# Byte strings cut into frames

`Holds frame content` says what a valid frame is without reading it: a checksum over a
method, two sizes and a payload that stands for the content. `Cut wire content` puts
frames of any contents but empty ones behind each other. A header of such a frame can be
read, the frame can be unpacked, and what the writer makes of a byte string is a cut of it.
-/
namespace ColumnWire.Frame

/-- The byte string is one valid frame, and `content` is what it holds. -/
inductive Holds : (frame content : Bytes) → Prop
  | stored {content : Bytes} (hsize : content.length + headerLength ≤ maxSize) :
      Holds (assemble stored content.length content) content
  | lz4 {payload content : Bytes} (hsize : payload.length + headerLength ≤ maxSize)
      (hcontent : content.length ≤ maxSize)
      (hexpand : Lz4.expand content.length payload = some content) :
      Holds (assemble lz4 content.length payload) content

/-- The wire carries valid frames, none of them empty, that hold the content piece by piece. -/
inductive Cut : (wire content : Bytes) → Prop
  | nil : Cut [] []
  | cons {frame piece wire content : Bytes} (hframe : Holds frame piece) (hpiece : piece ≠ [])
      (hrest : Cut wire content) : Cut (frame ++ wire) (piece ++ content)

/-- Without content there is no frame. -/
theorem Cut.wire_eq_nil {wire : Bytes} (h : Cut wire []) : wire = [] := by
  generalize hc : ([] : Bytes) = content at h
  cases h with
  | nil => rfl
  | cons hframe hpiece hrest => exact absurd (List.append_eq_nil_iff.mp hc.symm).1 hpiece

/-! ## Reading a frame -/

@[simp] theorem length_checksum (bs : Bytes) : (checksum bs).length = checksumLength := by
  simp [checksum, checksumLength]

theorem length_body (method : UInt8) (contentSize : Nat) (payload : Bytes) :
    (body method contentSize payload).length = payload.length + headerLength := by
  simp only [body, List.length_cons, List.length_append, LittleEndian.length_encode, headerLength]
  omega

/-- A size that a frame may have is read as it was written. -/
theorem decode_size {n : Nat} (h : n ≤ maxSize) :
    LittleEndian.decode (LittleEndian.encode 4 n) = n := by
  rw [LittleEndian.decode_encode]
  exact Nat.mod_eq_of_lt (Nat.lt_of_le_of_lt h (by decide))

/-- The bytes of a frame in front of its payload. -/
def lead (method : UInt8) (contentSize : Nat) (payload : Bytes) : Bytes :=
  checksum (body method contentSize payload) ++
    method :: (LittleEndian.encode 4 (payload.length + headerLength) ++
      LittleEndian.encode 4 contentSize)

theorem lead_append (method : UInt8) (contentSize : Nat) (payload : Bytes) :
    lead method contentSize payload ++ payload = assemble method contentSize payload := by
  simp [lead, assemble, body]

theorem length_lead (method : UInt8) (contentSize : Nat) (payload : Bytes) :
    (lead method contentSize payload).length = leadLength := by
  simp [lead, leadLength, headerLength]

theorem drop_lead (method : UInt8) (contentSize : Nat) (payload : Bytes) :
    (lead method contentSize payload).drop checksumLength ++ payload =
      body method contentSize payload := by
  rw [lead, List.drop_left' (length_checksum _)]
  simp [body]

/-- What a header says of a frame. -/
def headerOf (method : UInt8) (contentSize : Nat) (payload : Bytes) : Header :=
  ⟨checksum (body method contentSize payload), method, payload.length + headerLength, contentSize⟩

theorem parse_lead {method : UInt8} {contentSize : Nat} {payload : Bytes}
    (hsize : payload.length + headerLength ≤ maxSize) (hcontent : contentSize ≤ maxSize) :
    Header.parse (lead method contentSize payload) = .ok (headerOf method contentSize payload) := by
  have hlow : ¬ payload.length + headerLength < headerLength := by omega
  have hhigh : ¬ (maxSize < payload.length + headerLength ∨ maxSize < contentSize) := by omega
  have hsum := length_checksum (body method contentSize payload)
  simp only [Header.parse, lead, List.drop_left' hsum, List.take_left' hsum, List.drop_succ_cons,
    List.drop_zero, List.headD_cons]
  rw [List.take_left' (LittleEndian.length_encode 4 _),
    List.drop_left' (LittleEndian.length_encode 4 _),
    List.take_of_length_le (Nat.le_of_eq (LittleEndian.length_encode 4 _)),
    decode_size hsize, decode_size hcontent, if_neg hlow, if_neg hhigh]
  rfl

theorem decode_body {method : UInt8} {payload content : Bytes}
    (hunpack : unpack method content.length payload = .ok content) :
    decode (headerOf method content.length payload) (body method content.length payload) =
      .ok content := by
  have hdrop : (body method content.length payload).drop headerLength = payload := by
    rw [body, headerLength, List.drop_succ_cons]
    exact List.drop_left' (by simp)
  simp [decode, headerOf, length_body, hdrop, hunpack]

/-- A valid frame can be read: its header, and then what it holds. -/
theorem Holds.exists_header {frame content : Bytes} (h : Holds frame content) :
    ∃ (lead payload : Bytes) (header : Header), frame = lead ++ payload ∧
      lead.length = leadLength ∧ Header.parse lead = .ok header ∧
      header.payloadLength = payload.length ∧
      decode header (lead.drop checksumLength ++ payload) = .ok content := by
  obtain ⟨method, payload, hframe, hsize, hcontent, hunpack⟩ :
      ∃ method payload, frame = assemble method content.length payload ∧
        payload.length + headerLength ≤ maxSize ∧ content.length ≤ maxSize ∧
        unpack method content.length payload = .ok content := by
    cases h with
    | stored hsize =>
      have hne : Frame.stored ≠ Frame.lz4 := by decide
      exact ⟨Frame.stored, content, rfl, hsize, by omega, by simp [unpack, hne]⟩
    | @lz4 payload _ hsize hcontent hexpand =>
      exact ⟨Frame.lz4, payload, rfl, hsize, hcontent, by simp [unpack, hexpand]⟩
  refine ⟨lead method content.length payload, payload, headerOf method content.length payload,
    ?_, length_lead _ _ _, parse_lead hsize hcontent, ?_, ?_⟩
  · rw [lead_append, hframe]
  · simp [Header.payloadLength, headerOf]
  · rw [drop_lead, decode_body hunpack]

/-- What `decode` has checked when it gives content. -/
theorem decode_eq_ok {header : Header} {bs content : Bytes} (h : decode header bs = .ok content) :
    bs.length = header.compressedSize ∧ checksum bs = header.checksum ∧
      unpack header.method header.contentSize (bs.drop headerLength) = .ok content ∧
      content.length = header.contentSize := by
  have hlength := length_of_decode h
  unfold decode at h
  split at h
  · cases h
  · next hsize =>
    split at h
    · cases h
    · next hsum =>
      split at h
      · cases h
      · next unpacked hunpack =>
        split at h
        · cases h
        · cases h
          exact ⟨Decidable.not_not.mp hsize, Decidable.not_not.mp hsum, hunpack, hlength⟩

/-- What `parse` has checked when it gives a header. -/
theorem Header.parse_eq_ok {sum compressed size : Bytes} {method : UInt8} {header : Header}
    (hsum : sum.length = checksumLength) (hcompressed : compressed.length = 4)
    (hsize : size.length = 4)
    (h : Header.parse (sum ++ method :: (compressed ++ size)) = .ok header) :
    header = ⟨sum, method, LittleEndian.decode compressed, LittleEndian.decode size⟩ ∧
      headerLength ≤ header.compressedSize ∧ header.compressedSize ≤ maxSize ∧
      header.contentSize ≤ maxSize := by
  simp only [Header.parse, List.drop_left' hsum, List.take_left' hsum, List.drop_succ_cons,
    List.drop_zero, List.headD_cons] at h
  rw [List.take_left' hcompressed, List.drop_left' hcompressed,
    List.take_of_length_le (Nat.le_of_eq hsize)] at h
  split at h
  · cases h
  · next hlow =>
    split at h
    · cases h
    · next hhigh =>
      cases h
      exact ⟨rfl, Nat.le_of_not_lt hlow, Nat.le_of_not_lt fun hlt => hhigh (.inl hlt),
        Nat.le_of_not_lt fun hlt => hhigh (.inr hlt)⟩

/-- The bytes in front of a payload, field by field. -/
theorem exists_fields {bs : Bytes} (h : bs.length = leadLength) :
    ∃ sum method compressed size, bs = sum ++ method :: (compressed ++ size) ∧
      sum.length = checksumLength ∧ compressed.length = 4 ∧ size.length = 4 := by
  simp only [leadLength, checksumLength, headerLength] at h
  obtain ⟨method, sizes, hrest⟩ : ∃ method sizes, bs.drop checksumLength = method :: sizes :=
    List.exists_cons_of_ne_nil (List.ne_nil_of_length_pos (by simp [checksumLength, h]))
  have hsizes : sizes.length = 8 := by
    have hlength := congrArg List.length hrest
    simp only [List.length_drop, List.length_cons, checksumLength] at hlength
    omega
  refine ⟨bs.take checksumLength, method, sizes.take 4, sizes.drop 4, ?_, ?_, ?_, ?_⟩
  · rw [List.take_append_drop, ← hrest, List.take_append_drop]
  · simp [checksumLength, h]
  · simp [hsizes]
  · simp [hsizes]

/-- A payload that stands for some content makes a valid frame. -/
theorem Holds.of_unpack {method : UInt8} {payload content : Bytes}
    (hsize : payload.length + headerLength ≤ maxSize) (hcontent : content.length ≤ maxSize)
    (h : unpack method content.length payload = .ok content) :
    Holds (assemble method content.length payload) content := by
  unfold unpack at h
  split at h
  · next hmethod =>
    split at h
    · next expanded hexpand =>
      cases h
      rw [hmethod]
      exact .lz4 hsize hcontent hexpand
    · cases h
  · split at h
    · next hmethod =>
      cases h
      rw [hmethod]
      exact .stored hsize
    · cases h

/-- **Nothing else can be read as a frame**: a header that is accepted, with as many bytes behind it
as it asks for, is a valid frame if there is content in it. -/
theorem Holds.of_decode {bs payload content : Bytes} {header : Header} (hbs : bs.length = leadLength)
    (hparse : Header.parse bs = .ok header)
    (hdecode : decode header (bs.drop checksumLength ++ payload) = .ok content) :
    Holds (bs ++ payload) content := by
  obtain ⟨sum, method, compressed, size, rfl, hsum, hcompressed, hsize⟩ := exists_fields hbs
  obtain ⟨hheader, -, hmax, hcontent⟩ := Header.parse_eq_ok hsum hcompressed hsize hparse
  obtain ⟨hlength, hchecksum, hunpack, hcontentSize⟩ := decode_eq_ok hdecode
  rw [List.drop_left' hsum] at hlength hchecksum hunpack
  have hdrop : (method :: (compressed ++ size) ++ payload).drop headerLength = payload :=
    List.drop_left' (by simp [headerLength, hcompressed, hsize])
  have hpayload : payload.length + headerLength = header.compressedSize := by
    rw [← hlength]
    simp only [List.length_append, List.length_cons, hcompressed, hsize, headerLength]
    omega
  -- Each of the two sizes has only one written form.
  have hcompressed' : LittleEndian.encode 4 (payload.length + headerLength) = compressed := by
    rw [hpayload, hheader, ← hcompressed]
    exact LittleEndian.encode_decode compressed
  have hsize' : LittleEndian.encode 4 content.length = size := by
    rw [hcontentSize, hheader, ← hsize]
    exact LittleEndian.encode_decode size
  have hbody : method :: (compressed ++ size) ++ payload = body method content.length payload := by
    rw [body, hcompressed', hsize', List.cons_append]
  have hframe : sum ++ method :: (compressed ++ size) ++ payload =
      assemble method content.length payload := by
    rw [List.append_assoc, hbody, assemble, ← hbody, hchecksum, hheader]
  rw [hframe]
  rw [hdrop, ← hcontentSize, hheader] at hunpack
  exact .of_unpack (hpayload ▸ hmax) (hcontentSize ▸ hcontent) hunpack

/-! ## Writing frames -/

/-- What is relied on of a compressor of chunks. -/
structure Restores (compress : Bytes → Bytes) : Prop where
  expand : ∀ chunk : Bytes, chunk.length ≤ maxChunk →
    Lz4.expand chunk.length (compress chunk) = some chunk
  length_lt : ∀ chunk : Bytes, chunk.length ≤ maxChunk → (compress chunk).length + 9 < maxSize

theorem restores_compress : Restores Lz4.compress where
  expand chunk _ := Lz4.expand_compress chunk (Nat.le_refl _)
  length_lt chunk h := by
    have hlength := Lz4.length_compress_le chunk
    simp only [maxChunk, maxSize] at h ⊢
    omega

namespace Restores

variable {compress : Bytes → Bytes}

/-- The frame that the writer makes of a chunk holds it. -/
theorem holds_encodeBy (h : Restores compress) {chunk : Bytes} (hlength : chunk.length ≤ maxChunk) :
    Holds (encodeBy compress chunk) chunk :=
  .lz4 (Nat.le_of_lt (h.length_lt chunk hlength)) (Nat.le_trans hlength (by decide))
    (h.expand chunk hlength)

/-- **What the writer makes of a byte string is a cut of it**, whichever matches the compressor takes. -/
theorem cut_encodeAllBy (h : Restores compress) (bs : Bytes) : Cut (encodeAllBy compress bs) bs := by
  induction bs using Bytes.chunks_induction maxChunk with
  | nil =>
    rw [encodeAllBy, Bytes.chunks_nil]
    exact .nil
  | cons b bs ih =>
    have hshort : ((b :: bs).take maxChunk).length ≤ maxChunk := by
      rw [List.length_take]
      exact Nat.min_le_left _ _
    have hsplit : (b :: bs).take maxChunk ++ bs.drop (maxChunk - 1) = b :: bs :=
      List.take_append_drop maxChunk (b :: bs)
    have hcut := Cut.cons (h.holds_encodeBy hshort) (by simp [maxChunk]) ih
    rw [hsplit] at hcut
    rwa [encodeAllBy, Bytes.chunks_cons, List.flatMap_cons]

end Restores

end ColumnWire.Frame

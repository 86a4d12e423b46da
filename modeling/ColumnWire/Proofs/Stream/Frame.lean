import ColumnWire.Proofs.Frame.Parts
import ColumnWire.Proofs.Stream.Outcome
import ColumnWire.Proofs.Stream.Offer
import ColumnWire.Stream.Writer

/-!
# Frames are read and written exactly

What a reader makes of a stream is settled by the bytes that are needed of it. If they do not all
arrive the stream's ending decides (`nextFrame_short`), and if they do a frame is accepted or refused
for what stands in it (`nextFrame_enough`). Which of the two it is, and that a writer's frames are
among those that are accepted, is `frames_exact`.
-/
namespace ColumnWire.Decoder

open Reader ColumnWire.Frame

variable {stop rd : Reader Cursor} {lead : Bytes}

/-- A frame whose header is refused. -/
theorem nextFrame_refused {fault : FrameFault} (hlead : lead.length = leadLength)
    (hparse : Header.parse lead = .error fault) :
    nextFrame (stop.before lead) = .error (.compression fault) stop := by
  have htake := takeRaw_before stop lead
  rw [hlead] at htake
  refine (bind_of_eq_ok htake).trans ?_
  rw [hparse]
  rfl

/-- Behind a header that is accepted, the payload is taken and judged by it. -/
theorem nextFrame_accepted {header : Header} (hlead : lead.length = leadLength)
    (hparse : Header.parse lead = .ok header) :
    nextFrame (stop.before lead) = (do
      let payload ← takeRaw header.payloadLength
      ofFrame (Frame.decode header (lead.drop checksumLength ++ payload)) :
        Decoder Cursor Bytes) stop := by
  have htake := takeRaw_before stop lead
  rw [hlead] at htake
  refine (bind_of_eq_ok htake).trans ?_
  rw [hparse]
  rfl

/-- **Too few bytes**: reading fails as the stream ended, and nothing is left of it. -/
theorem nextFrame_short (h : rd.source.bytes.length < needed rd.source.bytes) :
    ∃ stop, nextFrame rd = .error (rd.source.ending.error rd.limit) stop ∧ stop.source.bytes = [] := by
  by_cases hlong : leadLength ≤ rd.source.bytes.length
  · obtain ⟨lead, behind, rfl, hlead⟩ := exists_before_of_le hlong
    have hneeded : needed (behind.before lead).source.bytes = needed lead := needed_append hlead _
    rw [hneeded, length_before, hlead] at h
    cases hparse : Header.parse lead with
    | error fault =>
      rw [needed_of_parse_error hparse] at h
      omega
    | ok header =>
      rw [needed_of_parse_ok hparse] at h
      obtain ⟨stop, htake, hempty⟩ := takeRaw_short (Nat.lt_of_add_lt_add_left h)
      rw [nextFrame_accepted hlead hparse]
      exact ⟨stop, bind_eq_error.mpr (.inl htake), hempty⟩
  · obtain ⟨stop, htake, hempty⟩ := takeRaw_short (Nat.lt_of_not_le hlong)
    exact ⟨stop, bind_eq_error.mpr (.inl htake), hempty⟩

/-- **Enough bytes**: there is a frame, or a fault in it. -/
theorem nextFrame_enough (h : needed rd.source.bytes ≤ rd.source.bytes.length) :
    (∃ content stop, nextFrame rd = .ok content stop) ∨
      ∃ fault stop, nextFrame rd = .error (.compression fault) stop := by
  obtain ⟨lead, behind, rfl, hlead⟩ := exists_before_of_le (Nat.le_trans (leadLength_le_needed _) h)
  have hneeded : needed (behind.before lead).source.bytes = needed lead := needed_append hlead _
  rw [hneeded, length_before, hlead] at h
  cases hparse : Header.parse lead with
  | error fault => exact .inr ⟨fault, behind, nextFrame_refused hlead hparse⟩
  | ok header =>
    rw [needed_of_parse_ok hparse] at h
    obtain ⟨payload, stop, rfl, hpayload⟩ := exists_before_of_le (Nat.le_of_add_le_add_left h)
    have htake := takeRaw_before stop payload
    rw [hpayload] at htake
    have hread := (nextFrame_accepted hlead hparse).trans (bind_of_eq_ok htake)
    cases hdecode : Frame.decode header (lead.drop checksumLength ++ payload) with
    | ok content =>
      rw [hdecode] at hread
      exact .inl ⟨content, stop, hread⟩
    | error fault =>
      rw [hdecode] at hread
      exact .inr ⟨fault, stop, hread⟩

/-- What a writer adds under compression is framed. -/
theorem withCompression_frames (prior bs : Bytes) :
    Writer.withCompression (·.append bs) ⟨true, prior⟩ =
      ⟨true, prior ++ ((bs.chunks maxChunk).map (encodeBy Lz4.compress)).flatten⟩ := by
  rw [Writer.withCompression, Writer.withCompressionBy_append, packBy_true, encodeAllBy,
    List.flatMap_def]
  rfl

/-- **Frames are exact.** What is written under compression stands behind what was there, in as many
frames as there are chunks; for every compressor that can be undone each of them is accepted and its
sizes fit, and the chunks are not empty, not too long, and together all of it. A frame is read just
where a valid one stands, and the reader stops right behind it. Any other stream is refused for a
fault in its frame if enough of it arrives, and fails as it ended if not. -/
theorem frames_exact :
    (∀ prior bs : Bytes, Writer.withCompression (·.append bs) ⟨true, prior⟩ =
      ⟨true, prior ++ ((bs.chunks 1048576).map (encodeBy Lz4.compress)).flatten⟩) ∧
    Restores Lz4.compress ∧
    (∀ compress : Bytes → Bytes, Restores compress → ∀ bs : Bytes,
      (bs.chunks 1048576).flatten = bs ∧
        ((bs.chunks 1048576).map (encodeBy compress)).length = (bs.length + 1048575) / 1048576 ∧
        List.Forall₂ Accepted ((bs.chunks 1048576).map (encodeBy compress)) (bs.chunks 1048576)) ∧
    (∀ (rd rd' : Reader Cursor) (content : Bytes), nextFrame rd = .ok content rd' ↔
      ∃ p : Parts, p.Hold content ∧ p.bytes.length = 16 + p.compressedSize ∧ rd = rd'.before p.bytes) ∧
    (∀ rd : Reader Cursor, needed rd.source.bytes ≤ rd.source.bytes.length →
      (¬ ∃ (p : Parts) (content : Bytes), p.Hold content ∧ p.bytes <+: rd.source.bytes) →
      ∃ fault rd', nextFrame rd = .error (.compression fault) rd') ∧
    ∀ rd : Reader Cursor, rd.source.bytes.length < needed rd.source.bytes →
      ∃ rd', nextFrame rd = .error (rd.source.ending.error rd.limit) rd' ∧ rd'.source.bytes = [] := by
  have hiff : ∀ (rd rd' : Reader Cursor) (content : Bytes), nextFrame rd = .ok content rd' ↔
      ∃ p : Parts, p.Hold content ∧ p.bytes.length = 16 + p.compressedSize ∧
        rd = rd'.before p.bytes := by
    intro rd rd' content
    rw [nextFrame_eq_ok_iff]
    constructor
    · rintro ⟨frame, hholds, hrd⟩
      obtain ⟨p, hhold, rfl⟩ := holds_iff.mp hholds
      exact ⟨p, hhold, hhold.length_bytes, hrd⟩
    · rintro ⟨p, hhold, -, hrd⟩
      exact ⟨p.bytes, holds_iff.mpr ⟨p, hhold, rfl⟩, hrd⟩
  refine ⟨withCompression_frames, restores_compress, ?_, hiff, ?_, ?_⟩
  · intro compress h bs
    obtain ⟨hlength, haccepted⟩ := h.frames bs
    rw [maxChunk, Nat.add_sub_assoc (by decide)] at hlength
    exact ⟨Bytes.flatten_chunks (by decide) bs, hlength, haccepted⟩
  · intro rd henough hnone
    rcases nextFrame_enough henough with ⟨content, stop, hread⟩ | hfault
    · obtain ⟨p, hhold, -, rfl⟩ := (hiff rd stop content).mp hread
      exact absurd ⟨p, content, hhold, List.prefix_append _ _⟩ hnone
    · exact hfault
  · intro rd hshort
    exact nextFrame_short hshort

/-- Seven alone in a frame, twenty-five zeros, and nothing. -/
theorem frames_exact_seven :
    let after : Reader Cursor := { source := { bytes := [1, 2] } }
    let zeros : Reader Cursor := { source := { bytes := List.replicate 25 0 } }
    let silent : Reader Cursor := { source := { bytes := [], ending := .silent }, limit := some ⟨5⟩ }
    nextFrame (after.before (Parts.assembled 0x02 1 [7]).bytes) = .ok [7] after ∧
      (∃ fault rd', nextFrame zeros = .error (.compression fault) rd') ∧
      (∃ rd', nextFrame silent = .error (.timeout ⟨5⟩) rd' ∧ rd'.source.bytes = []) ∧
      ((Bytes.chunks 1048576 [7]).map (encodeBy Lz4.compress)).length = 1 := by
  intro after zeros silent
  obtain ⟨-, hrestores, hwritten, hok, hfault, hshort⟩ := frames_exact
  refine ⟨?_, ?_, ?_, ?_⟩
  · have hhold : (Parts.assembled 0x02 1 [7]).Hold [7] :=
      Parts.hold_assembled (by decide) (by decide) rfl (.inl ⟨rfl, rfl⟩)
    exact (hok _ after [7]).mpr ⟨_, hhold, hhold.length_bytes, rfl⟩
  · refine hfault zeros (by decide) ?_
    rintro ⟨p, content, hhold, hprefix⟩
    obtain ⟨rest, hrest⟩ := hprefix
    obtain ⟨stop, hzeros, -⟩ := exists_before hrest.symm
    have hread := (hok zeros stop content).mpr ⟨p, hhold, hhold.length_bytes, hzeros⟩
    cases hread
  · exact hshort silent (by decide)
  · exact (hwritten Lz4.compress hrestores [7]).2.1

end ColumnWire.Decoder

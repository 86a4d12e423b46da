import ColumnWire.Bytes.Varint
import ColumnWire.Frame
import ColumnWire.Stream.Source
import ColumnWire.Stream.Spending
import ColumnWire.Text.Utf8

/-!
# Reading from a stream

A reader takes values off a source. Between `beginCompressed` and `endCompressed`, if
compression is on, it takes them from the contents of frames instead, and pulls the
next frame whenever one is used up. A failed read leaves the reader where it got to.

Every read spends what it takes (`spends_take`), so a loop in which each round reads
something ends on every stream.
-/
namespace ColumnWire

/-- Where reading has got to. -/
structure Reader (σ : Type) where
  source : σ
  /-- How long to wait for more bytes. -/
  limit : Option Duration := none
  compression : Bool := false
  /-- Inside a compressed region: what is unread of the current frame. -/
  region : Option Bytes := none
deriving Repr, DecidableEq, Inhabited

/-- A computation that reads. -/
abbrev Decoder (σ : Type) := EStateM Error (Reader σ)

/-- Longest text or column payload that is read. -/
def maxTextSize : Nat := 1073741824

namespace Reader

variable {σ : Type} [Source σ]

/-- A bound on the bytes that can still be read: one more than a whole frame for every byte
of the source, and the rest of the current frame. -/
def left (rd : Reader σ) : Nat := 1073741825 * Source.size rd.source + (rd.region.getD []).length

end Reader

namespace Decoder

variable {σ : Type} [Source σ]

/-- Take bytes off the source itself. -/
def takeRaw (n : Nat) : Decoder σ Bytes := fun rd =>
  match Source.take n rd.source with
  | (.ok bs, s) => .ok bs { rd with source := s }
  | (.error ending, s) => .error (ending.error rd.limit) { rd with source := s }

/-- A result that may be a frame fault. -/
def ofFrame {α : Type} : Except FrameFault α → Decoder σ α
  | .ok a => pure a
  | .error fault => throw (.compression fault)

/-- Take one frame off the source and give its content. -/
def nextFrame : Decoder σ Bytes := do
  let lead ← takeRaw Frame.leadLength
  let header ← ofFrame (Frame.Header.parse lead)
  let payload ← takeRaw header.payloadLength
  ofFrame (Frame.decode header (lead.drop Frame.checksumLength ++ payload))

/-! ## What frames cost -/

theorem spends_takeRaw (n : Nat) :
    Spends (fun rd : Reader σ => Source.size rd.source) (takeRaw n) n where
  of_ok {rd rd' bs} h := by
    unfold takeRaw at h
    cases hs : Source.take n rd.source with
    | mk r s =>
      rw [hs] at h
      cases r with
      | ok bs => cases h; exact Source.size_take_ok hs
      | error e => cases h
  of_error {rd rd' e} h := by
    unfold takeRaw at h
    cases hs : Source.take n rd.source with
    | mk r s =>
      rw [hs] at h
      cases r with
      | ok bs => cases h
      | error e => cases h; exact Source.size_take_error hs

/-- Taking off the source does not touch the region. -/
theorem keeps_region_takeRaw (n : Nat) : Keeps Reader.region (takeRaw (σ := σ) n) where
  of_ok {rd rd' bs} h := by
    unfold takeRaw at h
    cases hs : Source.take n rd.source with
    | mk r s => rw [hs] at h; cases r <;> cases h; rfl
  of_error {rd rd' e} h := by
    unfold takeRaw at h
    cases hs : Source.take n rd.source with
    | mk r s => rw [hs] at h; cases r <;> cases h; rfl

omit [Source σ] in
theorem spends_ofFrame {α : Type} (left : Reader σ → Nat) (r : Except FrameFault α) :
    Spends left (ofFrame r) 0 := by
  cases r with
  | ok a => exact Spends.ofPure a
  | error e => exact Spends.ofThrow _

omit [Source σ] in
theorem keeps_ofFrame {α γ : Type} (part : Reader σ → γ) (r : Except FrameFault α) :
    Keeps part (ofFrame r) := by
  cases r with
  | ok a => exact Keeps.ofPure a
  | error e => exact Keeps.ofThrow _

theorem spends_nextFrame :
    Spends (fun rd : Reader σ => Source.size rd.source) nextFrame Frame.leadLength :=
  (spends_takeRaw _).bindLeft fun _ => (spends_ofFrame _ _).bindLeft fun _ =>
    ((spends_takeRaw _).weaken (Nat.zero_le _)).bindLeft fun _ => spends_ofFrame _ _

theorem keeps_region_nextFrame : Keeps Reader.region (nextFrame (σ := σ)) :=
  (keeps_region_takeRaw _).bind fun _ => (keeps_ofFrame _ _).bind fun _ =>
    (keeps_region_takeRaw _).bind fun _ => keeps_ofFrame _ _

omit [Source σ] in
theorem ofFrame_eq_ok {α : Type} {r : Except FrameFault α} {rd rd' : Reader σ} {a : α} :
    ofFrame r rd = .ok a rd' ↔ r = .ok a ∧ rd = rd' := by
  cases r with
  | ok b => simpa [ofFrame] using pure_eq_ok
  | error e => simpa [ofFrame] using throw_ne_ok

/-- A frame holds no more than it may announce. -/
theorem yields_nextFrame :
    Yields (fun content : Bytes => content.length ≤ Frame.maxSize) (nextFrame (σ := σ)) := by
  intro s s' content h
  obtain ⟨lead, s₁, -, h⟩ := bind_eq_ok.mp h
  obtain ⟨header, s₂, hp, h⟩ := bind_eq_ok.mp h
  obtain ⟨payload, s₃, -, h⟩ := bind_eq_ok.mp h
  have hp := (ofFrame_eq_ok.mp hp).1
  have hd := (ofFrame_eq_ok.mp h).1
  exact Nat.le_trans (Nat.le_of_eq (Frame.length_of_decode hd)) (Frame.Header.contentSize_le hp)

/-! ## Taking bytes -/

/-- Pull frames until `n` more bytes are there; `taken` holds the parts so far, the last
one first. -/
def fill (n : Nat) (taken : List Bytes) (rd : Reader σ) : EStateM.Result Error (Reader σ) Bytes :=
  match _h : nextFrame rd with
  | .error e rd' => .error e rd'
  | .ok content rd' =>
    if n ≤ content.length then
      .ok (content.take n :: taken).reverse.flatten { rd' with region := some (content.drop n) }
    else fill (n - content.length) (content :: taken) { rd' with region := some [] }
termination_by Source.size rd.source
decreasing_by
  have := spends_nextFrame.of_ok _h
  simp only [Frame.leadLength, Frame.checksumLength, Frame.headerLength] at this
  omega

/-- Frames are pulled until one cannot be read. -/
theorem fill_of_error {n : Nat} {taken : List Bytes} {rd rd' : Reader σ} {e : Error}
    (h : nextFrame rd = .error e rd') : fill n taken rd = .error e rd' := by
  rw [fill]
  split
  · next hnext =>
    rw [h] at hnext
    cases hnext
    rfl
  · next hnext =>
    rw [h] at hnext
    cases hnext

/-- Frames are pulled until there are enough bytes. -/
theorem fill_of_ok {n : Nat} {taken : List Bytes} {rd rd' : Reader σ} {content : Bytes}
    (h : nextFrame rd = .ok content rd') : fill n taken rd =
      if n ≤ content.length then
        .ok (content.take n :: taken).reverse.flatten { rd' with region := some (content.drop n) }
      else fill (n - content.length) (content :: taken) { rd' with region := some [] } := by
  rw [fill]
  split
  · next hnext =>
    rw [h] at hnext
    cases hnext
  · next hnext =>
    rw [h] at hnext
    cases hnext
    rfl

/-- Take exactly `n` bytes. -/
def take (n : Nat) : Decoder σ Bytes := fun rd =>
  match rd.region with
  | none => takeRaw n rd
  | some unread =>
    let (now, later) := unread.splitAt n
    if now.length = n then .ok now { rd with region := some later }
    else fill (n - now.length) [now] { rd with region := some [] }

theorem spends_fill (n : Nat) (taken : List Bytes) (rd : Reader σ) :
    (∀ {rd' : Reader σ} {bs : Bytes}, fill n taken rd = .ok bs rd' →
      rd'.left + n ≤ 1073741825 * Source.size rd.source) ∧
    (∀ {rd' : Reader σ} {e : Error}, rd.region = some [] → fill n taken rd = .error e rd' →
      rd'.left ≤ 1073741825 * Source.size rd.source) := by
  fun_induction fill n taken rd with
  | case1 n taken rd e rd' h =>
    refine ⟨nofun, fun hr he => ?_⟩
    cases he
    have hs := spends_nextFrame.of_error h
    have hreg := keeps_region_nextFrame.of_error h
    simp only [Reader.left, hreg, hr, Option.getD_some, List.length_nil]
    omega
  | case2 n taken rd content rd' h hle =>
    refine ⟨fun he => ?_, nofun⟩
    cases he
    have hs := spends_nextFrame.of_ok h
    have hc := yields_nextFrame h
    simp only [Reader.left, Option.getD_some, List.length_drop, Frame.maxSize, Frame.leadLength,
      Frame.checksumLength, Frame.headerLength] at *
    omega
  | case3 n taken rd content rd' h hle ih =>
    have hs := spends_nextFrame.of_ok h
    have hc := yields_nextFrame h
    simp only [Frame.maxSize, Frame.leadLength, Frame.checksumLength, Frame.headerLength] at hs hc
    refine ⟨fun he => ?_, fun _ he => ?_⟩
    · have := ih.1 he
      simp only at this
      omega
    · have := ih.2 rfl he
      simp only at this
      omega

/-- Taking `n` bytes spends `n`. -/
theorem spends_take (n : Nat) : Spends Reader.left (take (σ := σ) n) n where
  of_ok {rd rd' bs} h := by
    unfold take at h
    cases hr : rd.region with
    | none =>
      simp only [hr] at h
      have hs := (spends_takeRaw n).of_ok h
      have hreg := (keeps_region_takeRaw n).of_ok h
      simp only [Reader.left, hreg, hr, Option.getD_none, List.length_nil] at *
      omega
    | some unread =>
      simp only [hr, List.splitAt_eq] at h
      split at h
      · next hlen =>
        cases h
        simp only [Reader.left, hr, Option.getD_some, List.length_drop, List.length_take] at *
        omega
      · have := (spends_fill ..).1 h
        simp only [Reader.left, hr, Option.getD_some, List.length_take] at *
        omega
  of_error {rd rd' e} h := by
    unfold take at h
    cases hr : rd.region with
    | none =>
      simp only [hr] at h
      have hs := (spends_takeRaw n).of_error h
      have hreg := (keeps_region_takeRaw n).of_error h
      simp only [Reader.left, hreg, hr, Option.getD_none, List.length_nil] at *
      omega
    | some unread =>
      simp only [hr, List.splitAt_eq] at h
      split at h
      · cases h
      · have := (spends_fill ..).2 rfl h
        simp only [Reader.left, hr, Option.getD_some] at *
        omega

end Decoder

end ColumnWire

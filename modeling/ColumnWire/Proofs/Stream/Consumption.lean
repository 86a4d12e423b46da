import ColumnWire.Proofs.Stream.Outcome

/-!
# What a read uses up

Payload comes off the source or, inside a region, off the contents of frames. `Consumed` follows a
reader from one position to another and says which payload it used up on the way; what is lost in a
read that fails does not count. A decoder that `Consumes` so many bytes uses up at least that many
when it succeeds, and when it fails it still gets to wherever it gets by using up payload. What is
used up was there before (`Consumed.left_le`, `Consumed.size_add_le`), so a reader that has used up
something has `Advanced`.
-/
namespace ColumnWire

variable {σ : Type} [Source σ]

/-- Taking off the source does not change the mode of compression. -/
theorem Decoder.keeps_compression_takeRaw (n : Nat) :
    Keeps Reader.compression (takeRaw (σ := σ) n) where
  of_ok {rd rd' bs} h := by
    unfold takeRaw at h
    split at h <;> cases h
    rfl
  of_error {rd rd' e} h := by
    unfold takeRaw at h
    split at h <;> cases h
    rfl

namespace Reader

/-- From one position to another this payload was used up. -/
inductive Consumed : Reader σ → Bytes → Reader σ → Prop
  | nothing {rd : Reader σ} : Consumed rd [] rd
  /-- Outside of a region it comes off the source. -/
  | wire {n : Nat} {bs later : Bytes} {rd rd₁ rd' : Reader σ} (hout : rd.Outside)
      (htake : Decoder.takeRaw n rd = .ok bs rd₁) (hrest : Consumed rd₁ later rd') :
      Consumed rd (bs ++ later) rd'
  /-- Inside it comes off the current frame. -/
  | content {bs unread later : Bytes} {rd rd' : Reader σ}
      (hregion : rd.region = some (bs ++ unread))
      (hrest : Consumed { rd with region := some unread } later rd') : Consumed rd (bs ++ later) rd'
  /-- When the current frame is used up, the next one takes its place. -/
  | frame {content bs : Bytes} {rd rd₁ rd' : Reader σ} (hregion : rd.region = some [])
      (hnext : Decoder.nextFrame rd = .ok content rd₁)
      (hrest : Consumed { rd₁ with region := some content } bs rd') : Consumed rd bs rd'
  /-- The source ends before there is enough. -/
  | wireLost {n : Nat} {e : Error} {bs : Bytes} {rd rd₁ rd' : Reader σ} (hout : rd.Outside)
      (htake : Decoder.takeRaw n rd = .error e rd₁) (hrest : Consumed rd₁ bs rd') :
      Consumed rd bs rd'
  /-- No valid frame stands next. -/
  | frameLost {e : Error} {bs : Bytes} {rd rd₁ rd' : Reader σ} (hregion : rd.region = some [])
      (hnext : Decoder.nextFrame rd = .error e rd₁) (hrest : Consumed rd₁ bs rd') :
      Consumed rd bs rd'

/-- Fewer bytes are left on the source, or as many, and fewer of the current frame. -/
def Advanced (rd rd' : Reader σ) : Prop :=
  Source.size rd'.source < Source.size rd.source ∨
    Source.size rd'.source = Source.size rd.source ∧
      (rd'.region.getD []).length < (rd.region.getD []).length

namespace Consumed

variable {bs first second : Bytes} {rd rd₁ rd' : Reader σ}

theorem append (h : Consumed rd first rd₁) (h' : Consumed rd₁ second rd') :
    Consumed rd (first ++ second) rd' := by
  induction h with
  | nothing => exact h'
  | wire hout htake _ ih =>
    rw [List.append_assoc]
    exact .wire hout htake (ih h')
  | content hregion _ ih =>
    rw [List.append_assoc]
    exact .content hregion (ih h')
  | frame hregion hnext _ ih => exact .frame hregion hnext (ih h')
  | wireLost hout htake _ ih => exact .wireLost hout htake (ih h')
  | frameLost hregion hnext _ ih => exact .frameLost hregion hnext (ih h')

/-- A read off the source, whatever comes of it. -/
theorem of_takeRaw_error {n : Nat} {e : Error} (hout : rd.Outside)
    (h : Decoder.takeRaw n rd = .error e rd') : Consumed rd [] rd' := .wireLost hout h .nothing

theorem of_takeRaw_ok {n : Nat} (hout : rd.Outside) (h : Decoder.takeRaw n rd = .ok bs rd') :
    Consumed rd bs rd' := by
  have hall : Consumed rd (bs ++ []) rd' := .wire hout h .nothing
  rwa [List.append_nil] at hall

/-- The front of the current frame. -/
theorem of_content {unread : Bytes} (hregion : rd.region = some (bs ++ unread)) :
    Consumed rd bs { rd with region := some unread } := by
  have hall : Consumed rd (bs ++ []) { rd with region := some unread } := .content hregion .nothing
  rwa [List.append_nil] at hall

/-- Where nothing is left of the current frame, nothing is left but what the source has. -/
theorem size_le (h : Consumed rd bs rd') : Source.size rd'.source ≤ Source.size rd.source := by
  induction h with
  | nothing => exact Nat.le_refl _
  | wire _ htake _ ih =>
    have hspent := (Decoder.spends_takeRaw _).of_ok htake
    omega
  | content _ _ ih => exact ih
  | frame _ hnext _ ih =>
    have hspent := Decoder.spends_nextFrame.of_ok hnext
    simp only at ih
    omega
  | wireLost _ htake _ ih =>
    have hspent := (Decoder.spends_takeRaw _).of_error htake
    omega
  | frameLost _ hnext _ ih =>
    have hspent := Decoder.spends_nextFrame.of_error hnext
    omega

/-- What is used up could still be read before, and cannot be any more. -/
theorem left_le (h : Consumed rd bs rd') : rd'.left + bs.length ≤ rd.left := by
  induction h with
  | nothing => exact Nat.le_refl _
  | @wire n bs later rd rd₁ rd' hout htake _ ih =>
    have hspent := (Decoder.spends_take n).of_ok ((Decoder.take_of_outside hout).trans htake)
    have hlength := Decoder.yields_take n ((Decoder.take_of_outside hout).trans htake)
    rw [List.length_append]
    omega
  | content hregion _ ih =>
    simp only [left, hregion, Option.getD_some, List.length_append] at ih ⊢
    omega
  | frame hregion hnext _ ih =>
    have hspent := Decoder.spends_nextFrame.of_ok hnext
    have hcontent := Decoder.yields_nextFrame hnext
    simp only [left, hregion, Option.getD_some, List.length_nil, Frame.maxSize, Frame.leadLength,
      Frame.checksumLength, Frame.headerLength] at *
    omega
  | @wireLost n e bs rd rd₁ rd' hout htake _ ih =>
    have hspent := (Decoder.spends_take n).of_error ((Decoder.take_of_outside hout).trans htake)
    omega
  | frameLost hregion hnext _ ih =>
    have hspent := Decoder.spends_nextFrame.of_error hnext
    have hkept := Decoder.keeps_region_nextFrame.of_error hnext
    simp only [left, hkept] at ih ⊢
    omega

/-- Who uses up something advances. -/
theorem advanced (h : Consumed rd bs rd') (hsome : 0 < bs.length) : rd.Advanced rd' := by
  have hsize := h.size_le
  have hleft := h.left_le
  unfold Advanced
  unfold left at hleft
  rcases Nat.lt_or_eq_of_le hsize with hless | hsame
  · exact .inl hless
  · rw [hsame] at hleft
    exact .inr ⟨hsame, by omega⟩

/-- Outside of a region all payload comes off the source, and there is still no region. -/
theorem size_add_le (h : Consumed rd bs rd') (hout : rd.Outside) :
    Source.size rd'.source + bs.length ≤ Source.size rd.source ∧ rd'.Outside ∧
      rd'.compression = rd.compression := by
  induction h with
  | nothing => exact ⟨Nat.le_refl _, hout, rfl⟩
  | @wire n bs later rd rd₁ rd' _ htake _ ih =>
    have hspent := (Decoder.spends_takeRaw n).of_ok htake
    have hlength := Decoder.yields_take n ((Decoder.take_of_outside hout).trans htake)
    have hkept := (Decoder.keeps_compression_takeRaw n).of_ok htake
    obtain ⟨hrest, hout', hkept'⟩ := ih ((Decoder.orderly_takeRaw n).outside.of_ok hout htake)
    rw [List.length_append]
    exact ⟨by omega, hout', hkept'.trans hkept⟩
  | content hregion | frame hregion | frameLost hregion =>
    rw [hout] at hregion
    cases hregion
  | wireLost _ htake _ ih =>
    have hspent := (Decoder.spends_takeRaw _).of_error htake
    have hkept := (Decoder.keeps_compression_takeRaw _).of_error htake
    obtain ⟨hrest, hout', hkept'⟩ := ih ((Decoder.orderly_takeRaw _).outside.of_error hout htake)
    exact ⟨by omega, hout', hkept'.trans hkept⟩

end Consumed

end Reader

open Reader (Consumed)

/-! ## Computations that use up payload -/

/-- At least so many bytes are used up on success, and on failure nothing else happens to the
reader. -/
structure Consumes {S α : Type} (reader : S → Reader σ) (d : EStateM Error S α) (n : Nat) :
    Prop where
  of_ok : ∀ {s s' : S} {a : α}, d s = .ok a s' →
    ∃ bs, Consumed (reader s) bs (reader s') ∧ n ≤ bs.length
  of_error : ∀ {s s' : S} {e : Error}, d s = .error e s' → ∃ bs, Consumed (reader s) bs (reader s')

namespace Consumes

variable {S α β : Type} {reader : S → Reader σ} {m n : Nat}

theorem ofPure (a : α) : Consumes reader (pure a : EStateM Error S α) 0 where
  of_ok h := by
    obtain ⟨-, rfl⟩ := pure_eq_ok.mp h
    exact ⟨[], .nothing, Nat.zero_le _⟩
  of_error h := absurd h pure_ne_error

theorem ofThrow (e : Error) : Consumes reader (throw e : EStateM Error S α) n where
  of_ok h := absurd h throw_ne_ok
  of_error h := by
    obtain ⟨-, rfl⟩ := throw_eq_error.mp h
    exact ⟨[], .nothing⟩

theorem weaken {d : EStateM Error S α} (h : Consumes reader d n) (hmn : m ≤ n) :
    Consumes reader d m where
  of_ok hd := by
    obtain ⟨bs, hbs, hn⟩ := h.of_ok hd
    exact ⟨bs, hbs, Nat.le_trans hmn hn⟩
  of_error := h.of_error

/-- A step after one whose results have a property. -/
theorem bindYields {x : EStateM Error S α} {f : α → EStateM Error S β} {Q : α → Prop}
    (hx : Consumes reader x m) (hQ : Yields Q x) (hf : ∀ a, Q a → Consumes reader (f a) n) :
    Consumes reader (x >>= f) (m + n) where
  of_ok h := by
    obtain ⟨a, s₁, h₁, h₂⟩ := bind_eq_ok.mp h
    obtain ⟨first, hfirst, hm⟩ := hx.of_ok h₁
    obtain ⟨second, hsecond, hn⟩ := (hf a (hQ h₁)).of_ok h₂
    refine ⟨first ++ second, hfirst.append hsecond, ?_⟩
    rw [List.length_append]
    omega
  of_error h := by
    rcases bind_eq_error.mp h with h | ⟨a, s₁, h₁, h₂⟩
    · exact hx.of_error h
    · obtain ⟨first, hfirst, -⟩ := hx.of_ok h₁
      obtain ⟨second, hsecond⟩ := (hf a (hQ h₁)).of_error h₂
      exact ⟨first ++ second, hfirst.append hsecond⟩

theorem bind {x : EStateM Error S α} {f : α → EStateM Error S β} (hx : Consumes reader x m)
    (hf : ∀ a, Consumes reader (f a) n) : Consumes reader (x >>= f) (m + n) :=
  hx.bindYields (Q := fun _ => True) (fun _ => trivial) fun a _ => hf a

/-- A computation uses up at least what its first step does. -/
theorem bindLeft {x : EStateM Error S α} {f : α → EStateM Error S β} (hx : Consumes reader x n)
    (hf : ∀ a, Consumes reader (f a) 0) : Consumes reader (x >>= f) n := hx.bind hf

theorem ofIte {c : Prop} [Decidable c] {x y : EStateM Error S α} (hx : Consumes reader x n)
    (hy : Consumes reader y n) : Consumes reader (if c then x else y) n := by
  split
  · exact hx
  · exact hy

end Consumes

namespace Decoder

/-! ## Taking bytes -/

/-- Frames are pulled until there are enough bytes, and what they give is used up. -/
theorem consumed_fill {n : Nat} {taken : List Bytes} {rd : Reader σ}
    (hregion : rd.region = some []) :
    (∀ {got : Bytes} {rd' : Reader σ}, fill n taken rd = .ok got rd' →
      ∃ bs, got = taken.reverse.flatten ++ bs ∧ Consumed rd bs rd') ∧
    ∀ {e : Error} {rd' : Reader σ}, fill n taken rd = .error e rd' → ∃ bs, Consumed rd bs rd' := by
  fun_induction fill n taken rd with
  | case1 n taken rd e rd' hnext =>
    constructor
    · intro got rd'' h
      cases h
    · intro e' rd'' h
      cases h
      exact ⟨[], .frameLost hregion hnext .nothing⟩
  | case2 n taken rd content rd' hnext hle =>
    constructor
    · intro got rd'' h
      cases h
      refine ⟨content.take n, by simp, .frame hregion hnext (.of_content ?_)⟩
      rw [List.take_append_drop]
    · intro e rd'' h
      cases h
  | case3 n taken rd content rd' hnext hle ih =>
    have hused {bs : Bytes} {rd'' : Reader σ}
        (h : Consumed { rd' with region := some [] } bs rd'') :
        Consumed rd (content ++ bs) rd'' := by
      refine .frame hregion hnext (.content ?_ h)
      rw [List.append_nil]
    refine ⟨fun h => ?_, fun h => ?_⟩
    · obtain ⟨bs, hgot, hrest⟩ := (ih rfl).1 h
      refine ⟨content ++ bs, ?_, hused hrest⟩
      rw [hgot, List.reverse_cons, List.flatten_append, List.flatten_singleton, List.append_assoc]
    · obtain ⟨bs, hrest⟩ := (ih rfl).2 h
      exact ⟨content ++ bs, hused hrest⟩

/-- **Bytes that are taken are used up.** -/
theorem consumed_take {n : Nat} {rd rd' : Reader σ} {bs : Bytes} (h : take n rd = .ok bs rd') :
    Consumed rd bs rd' := by
  rcases take_cases n rd with ⟨hout, heq⟩ | ⟨unread, hregion, -, heq⟩ | ⟨unread, hregion, hlt, heq⟩
  · exact .of_takeRaw_ok hout (heq ▸ h)
  · rw [heq] at h
    cases h
    refine .of_content ?_
    rw [hregion, List.take_append_drop]
  · obtain ⟨later, hgot, hrest⟩ := (consumed_fill rfl).1 (heq ▸ h)
    rw [hgot, List.reverse_singleton, List.flatten_singleton]
    refine .content ?_ hrest
    rw [hregion, List.append_nil]

theorem consumes_take (n : Nat) : Consumes id (take (σ := σ) n) n where
  of_ok h := ⟨_, consumed_take h, Nat.le_of_eq (yields_take n h).symm⟩
  of_error {rd rd' e} h := by
    rcases take_cases n rd with
      ⟨hout, heq⟩ | ⟨unread, hregion, -, heq⟩ | ⟨unread, hregion, hlt, heq⟩
    · exact ⟨[], .of_takeRaw_error hout (heq ▸ h)⟩
    · rw [heq] at h
      cases h
    · obtain ⟨later, hrest⟩ := (consumed_fill rfl).2 (heq ▸ h)
      refine ⟨unread ++ later, .content ?_ hrest⟩
      rw [id, hregion, List.append_nil]

/-! ## Single values -/

theorem consumes_byte : Consumes id (byte (σ := σ)) 1 :=
  (consumes_take 1).bindLeft fun _ => .ofPure _

theorem consumes_bool : Consumes id (bool (σ := σ)) 1 := consumes_byte.bindLeft fun _ => .ofPure _

theorem consumes_int32 : Consumes id (int32 (σ := σ)) 4 :=
  (((consumes_take 4).bindLeft fun _ => .ofPure _).bindLeft fun _ => .ofPure _).bindLeft
    fun _ => .ofPure _

theorem consumes_varintFrom (digitsLeft value weight : Nat) :
    Consumes id (varintFrom (σ := σ) digitsLeft value weight) 1 := by
  induction digitsLeft generalizing value weight with
  | zero => exact .ofThrow _
  | succ digitsLeft ih =>
    refine consumes_byte.bindLeft fun b => ?_
    exact .ofIte (.ofThrow _) (.ofIte (.ofPure _) ((ih _ _).weaken (Nat.zero_le _)))

theorem consumes_varint : Consumes id (varint (σ := σ)) 1 := consumes_varintFrom _ _ _

theorem consumes_bytes (n : Nat) : Consumes id (bytes (σ := σ) n) n :=
  .ofIte (.ofThrow _) (consumes_take n)

theorem consumes_text : Consumes id (text (σ := σ)) 1 := by
  refine Consumes.bindLeft ?_ fun _ => .ofPure _
  refine consumes_varint.bindLeft fun _ => ?_
  exact .ofIte (.ofThrow _) ((consumes_take _).weaken (Nat.zero_le _))

end Decoder

end ColumnWire

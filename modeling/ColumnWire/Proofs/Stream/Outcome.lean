import ColumnWire.Stream.Builder

/-!
# What holds of every outcome of a read

A read may succeed or fail anywhere, over any source. `Maintains P d` says that a property of
the state survives both, `Spoils d` that whatever `d` fails with spoils the connection that
meets it. A reader outside of a region stays outside, single values and frames only fail in
ways that spoil, and taken bytes have the length that was asked for.
-/
namespace ColumnWire

/-- Once a first step has succeeded the rest is all there is. -/
theorem bind_of_eq_ok {ε σ α β : Type} {x : EStateM ε σ α} {f : α → EStateM ε σ β} {s s' : σ} {a : α}
    (h : x s = .ok a s') : (x >>= f) s = f a s' := by
  show EStateM.bind x f s = _
  rw [EStateM.bind, h]

/-- A property of the state holds after a computation if it held before, also when that fails. -/
structure Maintains {ε σ α : Type} (P : σ → Prop) (d : EStateM ε σ α) : Prop where
  of_ok : ∀ {s s' : σ} {a : α}, P s → d s = .ok a s' → P s'
  of_error : ∀ {s s' : σ} {e : ε}, P s → d s = .error e s' → P s'

/-- Every failure spoils the connection that meets it. -/
structure Spoils {σ α : Type} (d : EStateM Error σ α) : Prop where
  of_error : ∀ {s s' : σ} {e : Error}, d s = .error e s' → e.spoilsConnection = true

namespace Maintains

variable {ε σ α β : Type} {P : σ → Prop}

theorem ofPure (a : α) : Maintains P (pure a : EStateM ε σ α) where
  of_ok hs h := (pure_eq_ok.mp h).2 ▸ hs
  of_error _ h := absurd h pure_ne_error

theorem ofThrow (e : ε) : Maintains P (throw e : EStateM ε σ α) where
  of_ok _ h := absurd h throw_ne_ok
  of_error hs h := (throw_eq_error.mp h).2 ▸ hs

/-- A step after one whose results have a property. -/
theorem bindYields {x : EStateM ε σ α} {f : α → EStateM ε σ β} {Q : α → Prop}
    (hx : Maintains P x) (hQ : Yields Q x) (hf : ∀ a, Q a → Maintains P (f a)) :
    Maintains P (x >>= f) where
  of_ok hs h := by
    obtain ⟨a, s₁, hx', hf'⟩ := bind_eq_ok.mp h
    exact (hf a (hQ hx')).of_ok (hx.of_ok hs hx') hf'
  of_error hs h := by
    rcases bind_eq_error.mp h with hx' | ⟨a, s₁, hx', hf'⟩
    · exact hx.of_error hs hx'
    · exact (hf a (hQ hx')).of_error (hx.of_ok hs hx') hf'

theorem bind {x : EStateM ε σ α} {f : α → EStateM ε σ β} (hx : Maintains P x)
    (hf : ∀ a, Maintains P (f a)) : Maintains P (x >>= f) :=
  hx.bindYields (Q := fun _ => True) (fun _ => trivial) fun a _ => hf a

theorem ofIte {c : Prop} [Decidable c] {x y : EStateM ε σ α} (hx : Maintains P x)
    (hy : Maintains P y) : Maintains P (if c then x else y) := by
  split
  · exact hx
  · exact hy

end Maintains

namespace Spoils

variable {σ α β : Type}

theorem ofPure (a : α) : Spoils (pure a : EStateM Error σ α) := ⟨fun h => absurd h pure_ne_error⟩

theorem ofThrow {e : Error} (he : e.spoilsConnection = true) :
    Spoils (throw e : EStateM Error σ α) := ⟨fun h => (throw_eq_error.mp h).1 ▸ he⟩

theorem bind {x : EStateM Error σ α} {f : α → EStateM Error σ β} (hx : Spoils x)
    (hf : ∀ a, Spoils (f a)) : Spoils (x >>= f) := by
  constructor
  intro s s' e h
  rcases bind_eq_error.mp h with hx' | ⟨a, s₁, -, hf'⟩
  · exact hx.of_error hx'
  · exact (hf a).of_error hf'

theorem ofIte {c : Prop} [Decidable c] {x y : EStateM Error σ α} (hx : Spoils x) (hy : Spoils y) :
    Spoils (if c then x else y) := by
  split
  · exact hx
  · exact hy

end Spoils

/-- The reader is not inside a region. -/
def Reader.Outside {σ : Type} (rd : Reader σ) : Prop := rd.region = none

/-- A decoder leaves a reader outside of regions, and fails only in ways that spoil. -/
structure Orderly {σ α : Type} (d : Decoder σ α) : Prop where
  outside : Maintains Reader.Outside d
  spoils : Spoils d

namespace Orderly

variable {σ α β : Type}

theorem ofPure (a : α) : Orderly (pure a : Decoder σ α) := ⟨.ofPure a, .ofPure a⟩

theorem ofThrow {e : Error} (he : e.spoilsConnection = true) : Orderly (throw e : Decoder σ α) :=
  ⟨.ofThrow e, .ofThrow he⟩

theorem bind {x : Decoder σ α} {f : α → Decoder σ β} (hx : Orderly x) (hf : ∀ a, Orderly (f a)) :
    Orderly (x >>= f) :=
  ⟨hx.outside.bind fun a => (hf a).outside, hx.spoils.bind fun a => (hf a).spoils⟩

theorem ofIte {c : Prop} [Decidable c] {x y : Decoder σ α} (hx : Orderly x) (hy : Orderly y) :
    Orderly (if c then x else y) :=
  ⟨.ofIte hx.outside hy.outside, .ofIte hx.spoils hy.spoils⟩

end Orderly

namespace Decoder

variable {σ : Type} [Source σ]

/-! ## Taking bytes -/

theorem orderly_takeRaw (n : Nat) : Orderly (takeRaw (σ := σ) n) where
  outside := {
    of_ok := fun hout h => ((keeps_region_takeRaw n).of_ok h).trans hout
    of_error := fun hout h => ((keeps_region_takeRaw n).of_error h).trans hout }
  spoils := by
    constructor
    intro rd rd' e h
    unfold takeRaw at h
    split at h
    · cases h
    · next ending source htake =>
      cases h
      cases ending <;> rfl

omit [Source σ] in
theorem orderly_ofFrame {α : Type} (r : Except FrameFault α) : Orderly (ofFrame (σ := σ) r) := by
  cases r with
  | ok a => exact .ofPure a
  | error fault => exact .ofThrow rfl

theorem orderly_nextFrame : Orderly (nextFrame (σ := σ)) :=
  (orderly_takeRaw _).bind fun _ => (orderly_ofFrame _).bind fun _ =>
    (orderly_takeRaw _).bind fun _ => orderly_ofFrame _

/-- Pulling frames fails as reading one of them does. -/
theorem spoils_fill {n : Nat} {taken : List Bytes} {rd rd' : Reader σ} {e : Error}
    (h : fill n taken rd = .error e rd') : e.spoilsConnection = true := by
  fun_induction fill n taken rd with
  | case1 n taken rd e' rd' hnext =>
    cases h
    exact orderly_nextFrame.spoils.of_error hnext
  | case2 => cases h
  | case3 n taken rd content rd' hnext hle ih => exact ih h

/-- What frames are pulled for is as long as it has to be, behind what was there before. -/
theorem length_fill {n : Nat} {taken : List Bytes} {rd rd' : Reader σ} {bs : Bytes}
    (h : fill n taken rd = .ok bs rd') : bs.length = taken.flatten.length + n := by
  fun_induction fill n taken rd with
  | case1 => cases h
  | case2 n taken rd content rd' hnext hle =>
    cases h
    simp only [List.reverse_cons, List.flatten_append, List.flatten_singleton, List.length_append,
      List.length_take, Nat.min_eq_left hle, List.length_flatten, List.map_reverse, List.sum_reverse]
  | case3 n taken rd content rd' hnext hle ih =>
    rw [ih h, List.flatten_cons, List.length_append]
    omega

/-- Where taken bytes come from: the source, the current frame, or frames that are pulled. -/
theorem take_cases (n : Nat) (rd : Reader σ) :
    (rd.region = none ∧ take n rd = takeRaw n rd) ∨
    (∃ unread, rd.region = some unread ∧ n ≤ unread.length ∧
      take n rd = .ok (unread.take n) { rd with region := some (unread.drop n) }) ∨
    ∃ unread, rd.region = some unread ∧ unread.length < n ∧
      take n rd = fill (n - unread.length) [unread] { rd with region := some [] } := by
  cases hr : rd.region with
  | none => exact .inl ⟨rfl, by simp [take, hr]⟩
  | some unread =>
    by_cases hle : n ≤ unread.length
    · exact .inr (.inl ⟨unread, rfl, hle, by simp [take, hr, hle]⟩)
    · have hall : unread.take n = unread := List.take_of_length_le (by omega)
      have hshort : unread.length ≠ n := by omega
      exact .inr (.inr ⟨unread, rfl, by omega, by simp [take, hr, hall, hshort]⟩)

/-- Outside of a region, bytes are taken off the source itself. -/
theorem take_of_outside {n : Nat} {rd : Reader σ} (hout : rd.Outside) : take n rd = takeRaw n rd := by
  have hregion : rd.region = none := hout
  simp [take, hregion]

theorem orderly_take (n : Nat) : Orderly (take (σ := σ) n) := by
  refine ⟨⟨?_, ?_⟩, ⟨?_⟩⟩
  · intro rd rd' bs hout h
    rw [take_of_outside hout] at h
    exact (orderly_takeRaw n).outside.of_ok hout h
  · intro rd rd' e hout h
    rw [take_of_outside hout] at h
    exact (orderly_takeRaw n).outside.of_error hout h
  · intro rd rd' e h
    rcases take_cases n rd with ⟨-, heq⟩ | ⟨unread, -, -, heq⟩ | ⟨unread, -, -, heq⟩
    · rw [heq] at h
      exact (orderly_takeRaw n).spoils.of_error h
    · rw [heq] at h
      cases h
    · rw [heq] at h
      exact spoils_fill h

/-- A take gives as many bytes as it is asked for. -/
theorem yields_take (n : Nat) : Yields (·.length = n) (take (σ := σ) n) := by
  intro rd rd' bs h
  rcases take_cases n rd with ⟨-, heq⟩ | ⟨unread, -, hle, heq⟩ | ⟨unread, -, hlt, heq⟩
  · rw [heq, takeRaw] at h
    split at h
    · next got source htake =>
      cases h
      exact Source.length_take htake
    · cases h
  · rw [heq] at h
    cases h
    rw [List.length_take, Nat.min_eq_left hle]
  · rw [heq] at h
    rw [length_fill h, List.flatten_singleton]
    omega

/-! ## Single values -/

theorem orderly_byte : Orderly (byte (σ := σ)) := (orderly_take 1).bind fun _ => .ofPure _

theorem orderly_bool : Orderly (bool (σ := σ)) := orderly_byte.bind fun _ => .ofPure _

theorem orderly_int32 : Orderly (int32 (σ := σ)) :=
  (((orderly_take 4).bind fun _ => .ofPure _).bind fun _ => .ofPure _).bind fun _ => .ofPure _

theorem orderly_varintFrom (digitsLeft value weight : Nat) :
    Orderly (varintFrom (σ := σ) digitsLeft value weight) := by
  induction digitsLeft generalizing value weight with
  | zero => exact .ofThrow rfl
  | succ k ih => exact orderly_byte.bind fun b => .ofIte (.ofThrow rfl) (.ofIte (.ofPure _) (ih _ _))

theorem orderly_varint : Orderly (varint (σ := σ)) := orderly_varintFrom _ _ _

theorem orderly_bytes (n : Nat) : Orderly (bytes (σ := σ) n) := .ofIte (.ofThrow rfl) (orderly_take n)

theorem orderly_text : Orderly (text (σ := σ)) :=
  (orderly_varint.bind fun _ => .ofIte (.ofThrow rfl) (orderly_take _)).bind fun _ => .ofPure _

theorem yields_bytes (n : Nat) : Yields (·.length = n) (bytes (σ := σ) n) := by
  intro rd rd' bs h
  unfold bytes at h
  split at h
  · exact absurd h throw_ne_ok
  · exact yields_take n h

end Decoder

namespace Builder

variable {σ α β γ : Type}

/-! ## Values under construction -/

theorem reading_eq_ok {d : Decoder σ α} {s s' : Reader σ × β} {a : α}
    (h : reading d s = .ok a s') : ∃ rd, d s.1 = .ok a rd ∧ s' = (rd, s.2) := by
  obtain ⟨rd, b⟩ := s
  cases hd : d rd with
  | ok a rd' =>
    simp only [reading, hd] at h
    cases h
    exact ⟨rd', rfl, rfl⟩
  | error e rd' => simp [reading, hd] at h

theorem reading_eq_error {d : Decoder σ α} {s s' : Reader σ × β} {e : Error}
    (h : reading d s = .error e s') : ∃ rd, d s.1 = .error e rd ∧ s' = (rd, s.2) := by
  obtain ⟨rd, b⟩ := s
  cases hd : d rd with
  | ok a rd' => simp [reading, hd] at h
  | error e rd' =>
    simp only [reading, hd] at h
    cases h
    exact ⟨rd', rfl, rfl⟩

theorem compressed_eq_ok {b : Builder σ β α} {s s' : Reader σ × β} {a : α}
    (h : compressed b s = .ok a s') :
    ∃ rd done, b (s.1.beginCompressed, s.2) = .ok a (rd, done) ∧ s' = (rd.endCompressed, done) := by
  obtain ⟨rd, start⟩ := s
  rcases hb : b (rd.beginCompressed, start) with ⟨a, rd', done⟩ | ⟨e, rd', done⟩
  · simp only [compressed, hb] at h
    cases h
    exact ⟨rd', done, rfl, rfl⟩
  · simp [compressed, hb] at h

theorem compressed_eq_error {b : Builder σ β α} {s s' : Reader σ × β} {e : Error}
    (h : compressed b s = .error e s') :
    ∃ rd done, b (s.1.beginCompressed, s.2) = .error e (rd, done) ∧
      s' = (rd.endCompressed, done) := by
  obtain ⟨rd, start⟩ := s
  rcases hb : b (rd.beginCompressed, start) with ⟨a, rd', done⟩ | ⟨e, rd', done⟩
  · simp [compressed, hb] at h
  · simp only [compressed, hb] at h
    cases h
    exact ⟨rd', done, rfl, rfl⟩

theorem within_eq_ok {wrap : γ → β} {start : γ} {part : Builder σ γ α} {s s' : Reader σ × β} {a : α}
    (h : within wrap start part s = .ok a s') :
    ∃ c, part (s.1, start) = .ok a (s'.1, c) ∧ s'.2 = wrap c := by
  obtain ⟨rd, b⟩ := s
  rcases hpart : part (rd, start) with ⟨a, rd', c⟩ | ⟨e, rd', c⟩
  · simp only [within, hpart] at h
    cases h
    exact ⟨c, rfl, rfl⟩
  · simp [within, hpart] at h

theorem within_eq_error {wrap : γ → β} {start : γ} {part : Builder σ γ α} {s s' : Reader σ × β}
    {e : Error} (h : within wrap start part s = .error e s') :
    ∃ c, part (s.1, start) = .error e (s'.1, c) ∧ s'.2 = wrap c := by
  obtain ⟨rd, b⟩ := s
  rcases hpart : part (rd, start) with ⟨a, rd', c⟩ | ⟨e, rd', c⟩
  · simp [within, hpart] at h
  · simp only [within, hpart] at h
    cases h
    exact ⟨c, rfl, rfl⟩

theorem fresh_eq_ok {start b : β} {whole : Builder σ β Unit} {rd rd' : Reader σ}
    (h : fresh start whole rd = .ok b rd') : whole (rd, start) = .ok () (rd', b) := by
  rcases hwhole : whole (rd, start) with ⟨u, rd₁, c⟩ | ⟨e, rd₁, c⟩
  · simp only [fresh, hwhole] at h
    cases h
    rfl
  · simp [fresh, hwhole] at h

theorem fresh_eq_error {start : β} {whole : Builder σ β Unit} {rd rd' : Reader σ} {e : Error}
    (h : fresh start whole rd = .error e rd') : ∃ b, whole (rd, start) = .error e (rd', b) := by
  rcases hwhole : whole (rd, start) with ⟨u, rd₁, c⟩ | ⟨e, rd₁, c⟩
  · simp [fresh, hwhole] at h
  · simp only [fresh, hwhole] at h
    cases h
    exact ⟨c, rfl⟩

/-- One push and those that follow it. -/
theorem pushes_succ (item : Decoder σ α) (count : Nat) :
    pushes item (count + 1) =
      reading item >>= fun a => update (·.push a) >>= fun _ => pushes item count := by
  funext s
  obtain ⟨rd, items⟩ := s
  show pushes item (count + 1) (rd, items) = EStateM.bind _ _ _
  simp only [pushes, EStateM.bind, reading]
  cases item rd <;> rfl

/-- Reading leaves the value alone. -/
theorem maintains_reading (P : β → Prop) (d : Decoder σ α) :
    Maintains (fun s => P s.2) (reading (β := β) d) where
  of_ok hs h := by
    obtain ⟨rd, -, rfl⟩ := reading_eq_ok h
    exact hs
  of_error hs h := by
    obtain ⟨rd, -, rfl⟩ := reading_eq_error h
    exact hs

theorem yields_reading {P : α → Prop} {d : Decoder σ α} (hd : Yields P d) :
    Yields P (reading (β := β) d) := by
  intro s s' a h
  obtain ⟨rd, hread, -⟩ := reading_eq_ok h
  exact hd hread

/-- A fresh value may have more than the property of the one before. -/
theorem maintains_put_bind {P Q : β → Prop} {b : β} {rest : Builder σ β α} (hb : Q b)
    (hrest : Maintains (fun s => Q s.2) rest) (hPQ : ∀ b, Q b → P b) :
    Maintains (fun s => P s.2) (put b >>= fun _ => rest) where
  of_ok _ h := by
    obtain ⟨u, s₁, hput, hrest'⟩ := bind_eq_ok.mp h
    cases hput
    exact hPQ _ (hrest.of_ok hb hrest')
  of_error _ h := by
    rcases bind_eq_error.mp h with hput | ⟨u, s₁, hput, hrest'⟩
    · cases hput
    · cases hput
      exact hPQ _ (hrest.of_error hb hrest')

theorem maintains_update {P : β → Prop} {f : β → β} (hf : ∀ b, P b → P (f b)) :
    Maintains (fun s => P s.2) (update (σ := σ) f) where
  of_ok hs h := by
    cases h
    exact hf _ hs
  of_error _ h := nomatch h

theorem maintains_compressed {P : β → Prop} {b : Builder σ β α} (hb : Maintains (fun s => P s.2) b) :
    Maintains (fun s => P s.2) (compressed b) where
  of_ok {s s' a} hs h := by
    have hstart : (fun s : Reader σ × β => P s.2) (s.1.beginCompressed, s.2) := hs
    obtain ⟨rd, done, hinside, rfl⟩ := compressed_eq_ok h
    have hdone := hb.of_ok hstart hinside
    exact hdone
  of_error {s s' e} hs h := by
    have hstart : (fun s : Reader σ × β => P s.2) (s.1.beginCompressed, s.2) := hs
    obtain ⟨rd, done, hinside, rfl⟩ := compressed_eq_error h
    have hdone := hb.of_error hstart hinside
    exact hdone

/-! ## Regions and failures -/

theorem outside_reading {d : Decoder σ α} (hd : Maintains Reader.Outside d) :
    Maintains (fun s => s.1.Outside) (reading (β := β) d) where
  of_ok hs h := by
    obtain ⟨rd, hread, rfl⟩ := reading_eq_ok h
    exact hd.of_ok hs hread
  of_error hs h := by
    obtain ⟨rd, hread, rfl⟩ := reading_eq_error h
    exact hd.of_error hs hread

/-- A region is closed on every way out. -/
theorem outside_compressed (b : Builder σ β α) :
    Maintains (fun s => s.1.Outside) (compressed b) where
  of_ok _ h := by
    obtain ⟨rd, done, -, rfl⟩ := compressed_eq_ok h
    rfl
  of_error _ h := by
    obtain ⟨rd, done, -, rfl⟩ := compressed_eq_error h
    rfl

theorem spoils_reading {d : Decoder σ α} (hd : Spoils d) : Spoils (reading (β := β) d) := by
  constructor
  intro s s' e h
  obtain ⟨rd, hread, -⟩ := reading_eq_error h
  exact hd.of_error hread

theorem spoils_compressed {b : Builder σ β α} (hb : Spoils b) : Spoils (compressed b) := by
  constructor
  intro s s' e h
  obtain ⟨rd, done, hinside, -⟩ := compressed_eq_error h
  exact hb.of_error hinside

theorem spoils_put (b : β) : Spoils (put (σ := σ) b) := ⟨fun h => nomatch h⟩

theorem spoils_update (f : β → β) : Spoils (update (σ := σ) f) := ⟨fun h => nomatch h⟩

theorem spoils_within {wrap : γ → β} {start : γ} {part : Builder σ γ α} (hpart : Spoils part) :
    Spoils (within wrap start part) := by
  constructor
  intro s s' e h
  obtain ⟨c, hrun, -⟩ := within_eq_error h
  exact hpart.of_error hrun

theorem spoils_fresh {start : β} {whole : Builder σ β Unit} (hwhole : Spoils whole) :
    Spoils (fresh start whole) := by
  constructor
  intro rd rd' e h
  obtain ⟨b, hrun⟩ := fresh_eq_error h
  exact hwhole.of_error hrun

theorem spoils_pushes {item : Decoder σ α} (hitem : Spoils item) (count : Nat) :
    Spoils (pushes item count) := by
  induction count with
  | zero => exact .ofPure ()
  | succ count ih =>
    rw [pushes_succ]
    exact (spoils_reading hitem).bind fun _ => (spoils_update _).bind fun _ => ih

end Builder

end ColumnWire

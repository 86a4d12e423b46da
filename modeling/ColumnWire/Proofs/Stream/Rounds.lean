import ColumnWire.Proofs.Stream.Consumption

/-!
# Loops that end

A loop is a round that is done again and again until it ends the loop. `EndsIn` says that it ends,
after how many rounds and with what: it holds of no loop that goes on forever. A loop over a stream
is `Sound` if that is so in every state, within a bound that the stream and its own counter set, and
if each round after which it goes on has brought the reader forward. Here are the loops that read
single values, which are over the frames that are pulled for one take and over the digits of a
number, and the loop over so many items of any kind.
-/
namespace ColumnWire

/-- What comes of a round: it ends the loop with a result, or the loop goes on in another state. -/
inductive Round (S R : Type) where
  | ended (result : R)
  | again (next : S)

/-- What a loop comes to, if it comes to `run` from any state it goes on in. -/
def Round.followedBy {S R : Type} (run : S → R) : Round S R → R
  | .ended result => result
  | .again next => run next

/-- The loop ends after so many rounds, with this result. -/
inductive EndsIn {S R : Type} (round : S → Round S R) : Nat → S → R → Prop
  | last {s : S} {r : R} (hround : round s = .ended r) : EndsIn round 1 s r
  | more {s s' : S} {r : R} {n : Nat} (hround : round s = .again s') (hrest : EndsIn round n s' r) :
      EndsIn round (n + 1) s r

/-- A loop over a stream. -/
structure Loop (σ S R : Type) where
  /-- One round. -/
  round : S → Round S R
  /-- All rounds from a state on. -/
  run : S → R
  reader : S → Reader σ
  /-- What holds of the states it gets to. -/
  Holds : S → Prop := fun _ => True
  /-- Most rounds that go on from a state. -/
  bound : S → Nat

namespace Loop

variable {σ S R : Type} [Source σ] {l : Loop σ S R}

/-- The run is what the rounds come to, and there are not more of them than the bound says; whenever
the loop goes on the reader has advanced. -/
structure Sound (l : Loop σ S R) : Prop where
  ends : ∀ s, l.Holds s → ∃ n ≤ l.bound s + 1, EndsIn l.round n s (l.run s)
  advances : ∀ s s', l.Holds s → l.round s = .again s' →
    l.Holds s' ∧ (l.reader s).Advanced (l.reader s')

/-- **A run that is one round and the run behind it is a loop that ends**, if the bound is lowered
whenever it goes on. -/
theorem sound_of_step (hrun : ∀ s, l.run s = (l.round s).followedBy l.run)
    (hstep : ∀ s s', l.Holds s → l.round s = .again s' →
      l.Holds s' ∧ (l.reader s).Advanced (l.reader s') ∧ l.bound s' < l.bound s) : l.Sound where
  ends s hs := by
    induction hn : l.bound s using Nat.strongRecOn generalizing s with
    | ind n ih =>
      rw [hrun]
      cases hround : l.round s with
      | ended r => exact ⟨1, Nat.le_add_left 1 n, .last hround⟩
      | again s' =>
        obtain ⟨hs', -, hless⟩ := hstep s s' hs hround
        obtain ⟨k, hk, hends⟩ := ih _ (hn ▸ hless) s' hs' rfl
        exact ⟨k + 1, by omega, .more hround hends⟩
  advances s s' hs hround := by
    obtain ⟨hs', hadvanced, -⟩ := hstep s s' hs hround
    exact ⟨hs', hadvanced⟩

end Loop

/-- A round that is counted, and uses up something besides. -/
theorem Reader.Consumed.counted {σ : Type} [Source σ] {rd rd' : Reader σ} {bs : Bytes}
    (h : Consumed rd bs rd') (hsome : 0 < bs.length) (roundsLeft : Nat) :
    rd.Advanced rd' ∧ min roundsLeft rd'.left < min (roundsLeft + 1) rd.left := by
  have hleft := h.left_le
  exact ⟨h.advanced hsome, by omega⟩

namespace Decoder

variable {σ : Type} [Source σ]

/-! ## Frames -/

/-- Frames are pulled until so many more bytes are there. A round pulls one frame, which may be
empty, and takes what is needed of it. -/
def frameLoop : Loop σ (Nat × List Bytes × Reader σ) (EStateM.Result Error (Reader σ) Bytes) where
  round := fun (n, taken, rd) =>
    match nextFrame rd with
    | .error e rd' => .ended (.error e rd')
    | .ok content rd' =>
      if n ≤ content.length then
        .ended (.ok (content.take n :: taken).reverse.flatten
          { rd' with region := some (content.drop n) })
      else .again (n - content.length, content :: taken, { rd' with region := some [] })
  run := fun (n, taken, rd) => fill n taken rd
  reader := fun (_, _, rd) => rd
  bound := fun (_, _, rd) => Source.size rd.source / Frame.leadLength

theorem fill_eq (n : Nat) (taken : List Bytes) (rd : Reader σ) :
    fill n taken rd = (frameLoop.round (n, taken, rd)).followedBy frameLoop.run := by
  simp only [frameLoop]
  cases hnext : nextFrame rd with
  | error e rd' => exact fill_of_error hnext
  | ok content rd' =>
    rw [fill_of_ok hnext]
    simp only
    split <;> rfl

/-- **Pulling frames ends**, also when all of them are empty: a frame takes at least the bytes of
its lead off the source. -/
theorem sound_frameLoop : (frameLoop (σ := σ)).Sound := by
  refine Loop.sound_of_step (fun (n, taken, rd) => fill_eq n taken rd) ?_
  rintro ⟨n, taken, rd⟩ s' - hround
  simp only [frameLoop] at hround ⊢
  cases hnext : nextFrame rd with
  | error e rd' =>
    rw [hnext] at hround
    cases hround
  | ok content rd' =>
    have hspent := spends_nextFrame.of_ok hnext
    rw [hnext] at hround
    simp only at hround
    split at hround
    · cases hround
    · cases hround
      simp only [Frame.leadLength, Frame.checksumLength, Frame.headerLength] at hspent ⊢
      exact ⟨trivial, .inl (by simp only; omega), by omega⟩

/-! ## Digits -/

/-- The digits of a variable-length number are read, of which at most so many are left. -/
def digitLoop : Loop σ (Nat × Nat × Nat × Reader σ) (EStateM.Result Error (Reader σ) UInt64) where
  round := fun (digitsLeft, value, weight, rd) =>
    match digitsLeft with
    | 0 => .ended (.error (.protocol .varintOverflow) rd)
    | digitsLeft + 1 =>
      match byte rd with
      | .error e rd' => .ended (.error e rd')
      | .ok b rd' =>
        if digitsLeft = 0 ∧ 1 < b then .ended (.error (.protocol .varintOverflow) rd')
        else if b < 128 then .ended (.ok (UInt64.ofNat (value + weight * b.toNat)) rd')
        else .again (digitsLeft, value + weight * (b.toNat % 128), 128 * weight, rd')
  run := fun (digitsLeft, value, weight, rd) => varintFrom digitsLeft value weight rd
  reader := fun (_, _, _, rd) => rd
  bound := fun (digitsLeft, _, _, rd) => min digitsLeft rd.left

theorem varintFrom_eq (digitsLeft value weight : Nat) (rd : Reader σ) :
    varintFrom digitsLeft value weight rd =
      (digitLoop.round (digitsLeft, value, weight, rd)).followedBy digitLoop.run := by
  cases digitsLeft with
  | zero => rfl
  | succ digitsLeft =>
    show EStateM.bind _ _ _ = _
    simp only [digitLoop, EStateM.bind]
    cases byte rd with
    | error e rd' => rfl
    | ok b rd' =>
      simp only
      split
      · rfl
      · split <;> rfl

/-- Reading the digits of a number ends: there are at most so many, and each is a byte. -/
theorem sound_digitLoop : (digitLoop (σ := σ)).Sound := by
  refine Loop.sound_of_step (fun (digitsLeft, value, weight, rd) => varintFrom_eq ..) ?_
  rintro ⟨digitsLeft, value, weight, rd⟩ s' - hround
  cases digitsLeft with
  | zero => cases hround
  | succ digitsLeft =>
    simp only [digitLoop] at hround ⊢
    cases hbyte : byte rd with
    | error e rd' =>
      rw [hbyte] at hround
      cases hround
    | ok b rd' =>
      rw [hbyte] at hround
      simp only at hround
      split at hround
      · cases hround
      split at hround
      · cases hround
      · cases hround
        obtain ⟨bs, hbs, hsome⟩ := consumes_byte.of_ok hbyte
        exact ⟨trivial, hbs.counted hsome digitsLeft⟩

end Decoder

namespace Builder

variable {σ α β : Type} [Source σ]

/-! ## So many items -/

/-- So many items are read, and each is added to a value. `run` is the builder that does it. -/
def countLoop (item : Decoder σ α) (add : β → α → β) (run : Nat → Builder σ β Unit) :
    Loop σ (Nat × Reader σ × β) (EStateM.Result Error (Reader σ × β) Unit) where
  round := fun (count, rd, b) =>
    match count with
    | 0 => .ended (.ok () (rd, b))
    | count + 1 =>
      match item rd with
      | .error e rd' => .ended (.error e (rd', b))
      | .ok a rd' => .again (count, rd', add b a)
  run := fun (count, rd, b) => run count (rd, b)
  reader := fun (_, rd, _) => rd
  bound := fun (count, rd, _) => min count rd.left

variable {item : Decoder σ α} {add : β → α → β} {run : Nat → Builder σ β Unit}

/-- Reading items ends, however many there are to be, if an item takes at least a byte. -/
theorem sound_countLoop (hitem : Consumes id item 1) (hzero : run 0 = pure ())
    (hsucc : ∀ count, run (count + 1) =
      reading item >>= fun a => update (add · a) >>= fun _ => run count) :
    (countLoop item add run).Sound := by
  refine Loop.sound_of_step ?_ ?_
  · rintro ⟨count, rd, b⟩
    cases count with
    | zero =>
      simp only [countLoop, hzero]
      rfl
    | succ count =>
      show run (count + 1) (rd, b) = _
      rw [hsucc]
      show EStateM.bind _ _ _ = _
      simp only [countLoop, EStateM.bind, reading]
      cases item rd <;> rfl
  · rintro ⟨count, rd, b⟩ s' - hround
    cases count with
    | zero => cases hround
    | succ count =>
      simp only [countLoop] at hround ⊢
      cases hread : item rd with
      | error e rd' =>
        rw [hread] at hround
        cases hround
      | ok a rd' =>
        rw [hread] at hround
        cases hround
        obtain ⟨bs, hbs, hsome⟩ := hitem.of_ok hread
        exact ⟨trivial, hbs.counted hsome count⟩

end Builder

end ColumnWire

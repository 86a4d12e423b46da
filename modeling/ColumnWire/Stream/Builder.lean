import ColumnWire.Stream.Primitive

/-!
# Reading into a value

A builder reads and changes a value under construction, which stays visible when the
reading fails. `within` builds a part, `fresh` a whole, and `compressed` does its
reading inside a compressed region that is closed on every way out.
-/
namespace ColumnWire

namespace Reader

variable {σ : Type}

/-- Enter a compressed region, if compression is on. -/
def beginCompressed (rd : Reader σ) : Reader σ :=
  if rd.compression then { rd with region := some [] } else rd

/-- Leave the compressed region and drop what is unread of its last frame. -/
def endCompressed (rd : Reader σ) : Reader σ := { rd with region := none }

@[simp] theorem region_endCompressed (rd : Reader σ) : rd.endCompressed.region = none := rfl

theorem left_beginCompressed [Source σ] (rd : Reader σ) : rd.beginCompressed.left ≤ rd.left := by
  unfold beginCompressed
  split
  · simp [left]
  · exact Nat.le_refl _

theorem left_endCompressed [Source σ] (rd : Reader σ) : rd.endCompressed.left ≤ rd.left := by
  simp [left, endCompressed]

end Reader

/-- A computation that reads and changes a value of type `β`. -/
abbrev Builder (σ β : Type) := EStateM Error (Reader σ × β)

namespace Builder

variable {σ α β γ : Type}

/-- The bytes that can still be read. -/
def left [Source σ] (s : Reader σ × β) : Nat := s.1.left

/-- Read, and leave the value alone. -/
def reading (d : Decoder σ α) : Builder σ β α := fun (rd, b) =>
  match d rd with
  | .ok a rd => .ok a (rd, b)
  | .error e rd => .error e (rd, b)

/-- Replace the value. -/
def put (b : β) : Builder σ β Unit := fun (rd, _) => .ok () (rd, b)

/-- Change the value. -/
def update (f : β → β) : Builder σ β Unit := fun (rd, b) => .ok () (rd, f b)

/-- Build a part from `start`; whatever comes of it becomes the value, wrapped up. -/
def within (wrap : γ → β) (start : γ) (part : Builder σ γ α) : Builder σ β α := fun (rd, _) =>
  match part (rd, start) with
  | .ok a (rd, c) => .ok a (rd, wrap c)
  | .error e (rd, c) => .error e (rd, wrap c)

/-- Build a value from `start`. One that fails is lost. -/
def fresh (start : β) (whole : Builder σ β Unit) : Decoder σ β := fun rd =>
  match whole (rd, start) with
  | .ok () (rd, b) => .ok b rd
  | .error e (rd, _) => .error e rd

/-- Read so many items, and push each onto the array. -/
def pushes (item : Decoder σ α) : (count : Nat) → Builder σ (Array α) Unit
  | 0 => pure ()
  | count + 1 => fun (rd, items) =>
    match item rd with
    | .ok a rd => pushes item count (rd, items.push a)
    | .error e rd => .error e (rd, items)

/-- Do the reading inside a compressed region. -/
def compressed (b : Builder σ β α) : Builder σ β α := fun (rd, start) =>
  match b (rd.beginCompressed, start) with
  | .ok a (rd, done) => .ok a (rd.endCompressed, done)
  | .error e (rd, done) => .error e (rd.endCompressed, done)

variable [Source σ]

theorem spends_reading {d : Decoder σ α} {n : Nat} (h : Spends Reader.left d n) :
    Spends left (reading (β := β) d) n where
  of_ok {s s' a} hd := by
    unfold reading at hd
    cases hr : d s.1 with
    | ok a rd => simp only [hr] at hd; cases hd; exact h.of_ok hr
    | error e rd => simp [hr] at hd
  of_error {s s' e} hd := by
    unfold reading at hd
    cases hr : d s.1 with
    | ok a rd => simp [hr] at hd
    | error e rd => simp only [hr] at hd; cases hd; exact h.of_error hr

theorem spends_put (b : β) : Spends left (put (σ := σ) b) 0 where
  of_ok h := by cases h; exact Nat.le_refl _
  of_error h := nomatch h

theorem spends_update (f : β → β) : Spends left (update (σ := σ) f) 0 where
  of_ok h := by cases h; exact Nat.le_refl _
  of_error h := nomatch h

theorem spends_within {wrap : γ → β} {start : γ} {part : Builder σ γ α} {n : Nat}
    (h : Spends left part n) : Spends left (within wrap start part) n where
  of_ok {s s' a} hd := by
    unfold within at hd
    cases hr : part (s.1, start) with
    | ok a s₁ => simp only [hr] at hd; cases hd; exact h.of_ok hr
    | error e s₁ => simp [hr] at hd
  of_error {s s' e} hd := by
    unfold within at hd
    cases hr : part (s.1, start) with
    | ok a s₁ => simp [hr] at hd
    | error e s₁ => simp only [hr] at hd; cases hd; exact h.of_error hr

theorem spends_fresh {start : β} {whole : Builder σ β Unit} {n : Nat}
    (h : Spends left whole n) : Spends Reader.left (fresh start whole) n where
  of_ok {rd rd' b} hd := by
    unfold fresh at hd
    cases hr : whole (rd, start) with
    | ok a s₁ => simp only [hr] at hd; cases hd; exact h.of_ok hr
    | error e s₁ => simp [hr] at hd
  of_error {rd rd' e} hd := by
    unfold fresh at hd
    cases hr : whole (rd, start) with
    | ok a s₁ => simp [hr] at hd
    | error e s₁ => simp only [hr] at hd; cases hd; exact h.of_error hr

theorem spends_pushes {item : Decoder σ α} (h : Spends Reader.left item 0) (count : Nat) :
    Spends left (pushes item count) 0 := by
  induction count with
  | zero => exact Spends.ofPure _
  | succ k ih =>
    constructor
    · intro s s' a hd
      unfold pushes at hd
      cases hr : item s.1 with
      | ok a rd =>
        simp only [hr] at hd
        have := h.of_ok hr
        have := ih.of_ok hd
        simp only [left] at *
        omega
      | error e rd => simp [hr] at hd
    · intro s s' e hd
      unfold pushes at hd
      cases hr : item s.1 with
      | ok a rd =>
        simp only [hr] at hd
        have := h.of_ok hr
        have := ih.of_error hd
        simp only [left] at *
        omega
      | error e rd => simp only [hr] at hd; cases hd; exact h.of_error hr

theorem spends_compressed {b : Builder σ β α} {n : Nat} (h : Spends left b n) :
    Spends left (compressed b) n where
  of_ok {s s' a} hd := by
    unfold compressed at hd
    cases hr : b (s.1.beginCompressed, s.2) with
    | ok a s₁ =>
      simp only [hr] at hd
      cases hd
      have := h.of_ok hr
      have := Reader.left_beginCompressed s.1
      have := Reader.left_endCompressed s₁.1
      simp only [left] at *
      omega
    | error e s₁ => simp [hr] at hd
  of_error {s s' e} hd := by
    unfold compressed at hd
    cases hr : b (s.1.beginCompressed, s.2) with
    | ok a s₁ => simp [hr] at hd
    | error e s₁ =>
      simp only [hr] at hd
      cases hd
      have := h.of_error hr
      have := Reader.left_beginCompressed s.1
      have := Reader.left_endCompressed s₁.1
      simp only [left] at *
      omega

end Builder

end ColumnWire

import ColumnWire.Error

/-!
# Computations that use something up

A stateful computation may fail, and its state survives the failure. `Spends left d n`
says that the quantity `left` never grows in `d`, and shrinks by `n` where `d` succeeds:
loops that spend something in every round end. `Keeps part d` says that `d` leaves a
part of the state alone, and `Yields P d` what holds of its results.
-/
namespace ColumnWire

variable {ε σ α β γ : Type}

/-- `left` never grows, and shrinks by `n` on success. -/
structure Spends (left : σ → Nat) (d : EStateM ε σ α) (n : Nat) : Prop where
  of_ok : ∀ {s s' : σ} {a : α}, d s = .ok a s' → left s' + n ≤ left s
  of_error : ∀ {s s' : σ} {e : ε}, d s = .error e s' → left s' ≤ left s

/-- A part of the state is the same before and after. -/
structure Keeps (part : σ → γ) (d : EStateM ε σ α) : Prop where
  of_ok : ∀ {s s' : σ} {a : α}, d s = .ok a s' → part s' = part s
  of_error : ∀ {s s' : σ} {e : ε}, d s = .error e s' → part s' = part s

/-- Every result has a property. -/
def Yields (P : α → Prop) (d : EStateM ε σ α) : Prop :=
  ∀ {s s' : σ} {a : α}, d s = .ok a s' → P a

theorem bind_eq_ok {x : EStateM ε σ α} {f : α → EStateM ε σ β} {s s' : σ} {b : β} :
    (x >>= f) s = .ok b s' ↔ ∃ a s₁, x s = .ok a s₁ ∧ f a s₁ = .ok b s' := by
  show EStateM.bind x f s = _ ↔ _
  unfold EStateM.bind
  cases x s with
  | ok a s₁ => exact ⟨fun h => ⟨a, s₁, rfl, h⟩, by rintro ⟨_, _, ⟨⟩, h⟩; exact h⟩
  | error e s₁ => simp

theorem bind_eq_error {x : EStateM ε σ α} {f : α → EStateM ε σ β} {s s' : σ} {e : ε} :
    (x >>= f) s = .error e s' ↔
      x s = .error e s' ∨ ∃ a s₁, x s = .ok a s₁ ∧ f a s₁ = .error e s' := by
  show EStateM.bind x f s = _ ↔ _
  unfold EStateM.bind
  cases x s with
  | ok a s₁ =>
    refine ⟨fun h => .inr ⟨a, s₁, rfl, h⟩, fun h => ?_⟩
    obtain h | ⟨_, _, h, hf⟩ := h
    · cases h
    · cases h; exact hf
  | error e s₁ => simp

theorem pure_eq_ok {a b : α} {s s' : σ} :
    (pure a : EStateM ε σ α) s = .ok b s' ↔ a = b ∧ s = s' := by
  show EStateM.Result.ok a s = _ ↔ _
  simp

theorem pure_ne_error {a : α} {s s' : σ} {e : ε} :
    (pure a : EStateM ε σ α) s ≠ .error e s' := nofun

theorem throw_ne_ok {e : ε} {s s' : σ} {a : α} :
    (throw e : EStateM ε σ α) s ≠ .ok a s' := nofun

theorem throw_eq_error {e e' : ε} {s s' : σ} :
    (throw e : EStateM ε σ α) s = .error e' s' ↔ e = e' ∧ s = s' := by
  show EStateM.Result.error e s = _ ↔ _
  simp

namespace Spends

variable {left : σ → Nat} {m n : Nat}

theorem ofPure (a : α) : Spends left (pure a : EStateM ε σ α) 0 where
  of_ok h := by obtain ⟨-, rfl⟩ := pure_eq_ok.mp h; exact Nat.le_refl _
  of_error h := absurd h pure_ne_error

theorem ofThrow (e : ε) : Spends left (throw e : EStateM ε σ α) n where
  of_ok h := absurd h throw_ne_ok
  of_error h := by obtain ⟨-, rfl⟩ := throw_eq_error.mp h; exact Nat.le_refl _

theorem weaken {d : EStateM ε σ α} (h : Spends left d n) (hmn : m ≤ n) : Spends left d m where
  of_ok hd := by have := h.of_ok hd; omega
  of_error := h.of_error

theorem bind {x : EStateM ε σ α} {f : α → EStateM ε σ β} (hx : Spends left x m)
    (hf : ∀ a, Spends left (f a) n) : Spends left (x >>= f) (m + n) where
  of_ok h := by
    obtain ⟨a, s₁, h₁, h₂⟩ := bind_eq_ok.mp h
    have := hx.of_ok h₁
    have := (hf a).of_ok h₂
    omega
  of_error h := by
    obtain h | ⟨a, s₁, h₁, h₂⟩ := bind_eq_error.mp h
    · exact hx.of_error h
    · have := hx.of_ok h₁
      have := (hf a).of_error h₂
      omega

/-- The spending of a computation is at least that of its first step. -/
theorem bindLeft {x : EStateM ε σ α} {f : α → EStateM ε σ β} (hx : Spends left x n)
    (hf : ∀ a, Spends left (f a) 0) : Spends left (x >>= f) n := bind hx hf

theorem ofIte {c : Prop} [Decidable c] {x y : EStateM ε σ α} (hx : Spends left x n)
    (hy : Spends left y n) : Spends left (if c then x else y) n := by
  split <;> assumption

end Spends

namespace Keeps

variable {part : σ → γ}

theorem ofPure (a : α) : Keeps part (pure a : EStateM ε σ α) where
  of_ok h := by obtain ⟨-, rfl⟩ := pure_eq_ok.mp h; rfl
  of_error h := absurd h pure_ne_error

theorem ofThrow (e : ε) : Keeps part (throw e : EStateM ε σ α) where
  of_ok h := absurd h throw_ne_ok
  of_error h := by obtain ⟨-, rfl⟩ := throw_eq_error.mp h; rfl

theorem bind {x : EStateM ε σ α} {f : α → EStateM ε σ β} (hx : Keeps part x)
    (hf : ∀ a, Keeps part (f a)) : Keeps part (x >>= f) where
  of_ok h := by
    obtain ⟨a, s₁, h₁, h₂⟩ := bind_eq_ok.mp h
    exact ((hf a).of_ok h₂).trans (hx.of_ok h₁)
  of_error h := by
    obtain h | ⟨a, s₁, h₁, h₂⟩ := bind_eq_error.mp h
    · exact hx.of_error h
    · exact ((hf a).of_error h₂).trans (hx.of_ok h₁)

end Keeps

end ColumnWire

import ColumnWire.Block
import ColumnWire.Proofs.Stream.Outcome

/-!
# Blocks are read anew

A block may be read in place of any other. Only the counts in front of its columns tell whether the
old columns are dropped, so what is in a block after a failure depends on what was in it before.
All else does not: whether the reading fails, how far it gets, how it fails, and the block that
it gives (`overwrites_readInto`).
-/
namespace ColumnWire

namespace Builder

variable {σ α β : Type} {d : Decoder σ α} {rd rd' : Reader σ}

theorem reading_of_ok {a : α} (h : d rd = .ok a rd') (b : β) :
    reading d (rd, b) = .ok a (rd', b) := by
  simp only [reading, h]

theorem reading_of_error {e : Error} (h : d rd = .error e rd') (b : β) :
    reading d (rd, b) = .error e (rd', b) := by
  simp only [reading, h]

end Builder

/-- What is built, and what is read for it, does not depend on the value from before, except that a
failure may leave that value behind. -/
structure Overwrites {σ β α : Type} (x : Builder σ β α) : Prop where
  of_ok : ∀ {rd : Reader σ} {b : β} {s' : Reader σ × β} {a : α},
    x (rd, b) = .ok a s' → ∀ b', x (rd, b') = .ok a s'
  of_error : ∀ {rd : Reader σ} {b : β} {s' : Reader σ × β} {e : Error},
    x (rd, b) = .error e s' → ∀ b', ∃ left, x (rd, b') = .error e (s'.1, left)

namespace Overwrites

variable {σ α β γ : Type}

/-- Reading does not look at the value. -/
theorem reading_bind {d : Decoder σ α} {f : α → Builder σ β γ} (hf : ∀ a, Overwrites (f a)) :
    Overwrites (Builder.reading d >>= f) where
  of_ok {rd b s' c} h b' := by
    obtain ⟨a, s₁, hread, hrest⟩ := bind_eq_ok.mp h
    obtain ⟨rd₁, hd, rfl⟩ := Builder.reading_eq_ok hread
    rw [bind_of_eq_ok (Builder.reading_of_ok hd b')]
    exact (hf a).of_ok hrest b'
  of_error {rd b s' e} h b' := by
    rcases bind_eq_error.mp h with hread | ⟨a, s₁, hread, hrest⟩
    · obtain ⟨rd₁, hd, rfl⟩ := Builder.reading_eq_error hread
      exact ⟨b', bind_eq_error.mpr (.inl (Builder.reading_of_error hd b'))⟩
    · obtain ⟨rd₁, hd, rfl⟩ := Builder.reading_eq_ok hread
      rw [bind_of_eq_ok (Builder.reading_of_ok hd b')]
      exact (hf a).of_error hrest b'

/-- Once there is a new value the old one is gone. -/
theorem put_bind (b : β) (rest : Builder σ β α) : Overwrites (Builder.put b >>= fun _ => rest) where
  of_ok h _ := h
  of_error {_ _ s' _} h _ := ⟨s'.2, h⟩

theorem compressed {x : Builder σ β α} (hx : Overwrites x) : Overwrites (Builder.compressed x) where
  of_ok h b' := by
    obtain ⟨rd₁, done, hinside, rfl⟩ := Builder.compressed_eq_ok h
    simp only [Builder.compressed, hx.of_ok hinside b']
  of_error h b' := by
    obtain ⟨rd₁, done, hinside, rfl⟩ := Builder.compressed_eq_error h
    obtain ⟨left, hinside'⟩ := hx.of_error hinside b'
    exact ⟨left, by simp only [Builder.compressed, hinside']⟩

end Overwrites

/-- **What is read does not depend on the block it is read into.** -/
theorem Block.overwrites_readInto {σ : Type} [Source σ] : Overwrites (Block.readInto (σ := σ)) := by
  refine .reading_bind fun _ => .compressed ?_
  refine .reading_bind fun _ => ?_
  refine .reading_bind fun columns => ?_
  refine .reading_bind fun rows => ?_
  exact .put_bind _ _

end ColumnWire

import Mathlib.Data.List.Basic

/-!
# Logs

A log grows at its end. What is found in it after one more entry was there before, or is that entry
(`split_concat`, `last_concat`).
-/
namespace ColumnWire

variable {α : Type} {log before after : List α} {x e : α} {P : α → Prop}

/-- What is found in a log is its last entry, or was there before. -/
theorem split_concat (h : log ++ [e] = before ++ x :: after) :
    (log = before ∧ e = x ∧ after = []) ∨ ∃ after', after = after' ++ [e] ∧ log = before ++ x :: after' := by
  rcases List.eq_nil_or_concat after with rfl | ⟨after', y, rfl⟩
  · obtain ⟨rfl, hlast⟩ := List.append_inj' h rfl
    exact .inl ⟨rfl, (List.cons.inj hlast).1, rfl⟩
  · rw [List.concat_eq_append, ← List.cons_append, ← List.append_assoc] at h
    obtain ⟨rfl, hlast⟩ := List.append_inj' h rfl
    obtain rfl := (List.cons.inj hlast).1
    exact .inr ⟨after', List.concat_eq_append, rfl⟩

/-- An entry behind which a property holds of all is the last one, or it was one before and the
property holds of the last one. -/
theorem last_concat :
    (∃ before after, log ++ [e] = before ++ x :: after ∧ ∀ y ∈ after, P y) ↔
      e = x ∨ (∃ before after, log = before ++ x :: after ∧ ∀ y ∈ after, P y) ∧ P e := by
  constructor
  · rintro ⟨before, after, hlog, hafter⟩
    rcases split_concat hlog with ⟨-, he, -⟩ | ⟨after', rfl, rfl⟩
    · exact .inl he
    · exact .inr ⟨⟨before, after', rfl, fun y hy => hafter y (List.mem_append_left _ hy)⟩,
        hafter e (by simp)⟩
  · rintro (rfl | ⟨⟨before, after, rfl, hafter⟩, he⟩)
    · exact ⟨log, [], rfl, List.forall_mem_nil _⟩
    · refine ⟨before, after ++ [e], by simp, fun y hy => ?_⟩
      rcases List.mem_append.mp hy with hold | hlast
      · exact hafter y hold
      · rw [List.mem_singleton.mp hlast]
        exact he

end ColumnWire

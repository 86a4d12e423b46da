import ColumnWire.Text.Blank
import Mathlib.Data.List.TakeWhile

/-!
# What trimming leaves

Trimming takes the blanks off both ends of a text and leaves everything else (`trimmed_trim`), and
there is only one text that is left (`Trimmed.trim_eq`).
-/
namespace ColumnWire.Blank

/-- What is kept of a text: everything but blanks at its ends, and no blank at either end. -/
structure Trimmed (text kept : List Char) : Prop where
  around : ∃ before after, text = before ++ kept ++ after ∧
    (∀ c ∈ before, isBlank c = true) ∧ ∀ c ∈ after, isBlank c = true
  first : ∀ c ∈ kept.head?, isBlank c = false
  last : ∀ c ∈ kept.getLast?, isBlank c = false

variable {cs kept : List Char}

/-- Blanks at the end make no difference. -/
theorem trimEnd_append_blanks {after : List Char} (hafter : ∀ c ∈ after, isBlank c = true)
    (cs : List Char) : trimEnd (cs ++ after) = trimEnd cs := by
  have hreverse : ∀ c ∈ after.reverse, isBlank c = true := fun c hc => hafter c (List.mem_reverse.mp hc)
  rw [trimEnd, List.reverse_append, List.dropWhile_append_of_pos hreverse, trimEnd]

theorem head?_dropWhile_blank (cs : List Char) : ∀ c ∈ (cs.dropWhile isBlank).head?, isBlank c = false := by
  intro c hc
  have hfirst := List.head?_dropWhile_not isBlank cs
  rw [Option.mem_def.mp hc] at hfirst
  exact hfirst

/-- Taking blanks off the end leaves what was in front of them. -/
theorem exists_trimEnd_append (cs : List Char) :
    ∃ after, cs = trimEnd cs ++ after ∧ ∀ c ∈ after, isBlank c = true := by
  refine ⟨(cs.reverse.takeWhile isBlank).reverse, ?_, ?_⟩
  · rw [trimEnd, ← List.reverse_append, List.takeWhile_append_dropWhile, List.reverse_reverse]
  · intro c hc
    exact List.mem_takeWhile_imp (List.mem_reverse.mp hc)

theorem trimmed_trim (cs : List Char) : Trimmed cs (trim cs) := by
  obtain ⟨after, hcs, hafter⟩ := exists_trimEnd_append (cs.dropWhile isBlank)
  refine ⟨⟨cs.takeWhile isBlank, after, ?_, ?_, hafter⟩, ?_, ?_⟩
  · rw [trim, List.append_assoc, ← hcs, List.takeWhile_append_dropWhile]
  · intro c hc
    exact List.mem_takeWhile_imp hc
  · intro c hc
    apply head?_dropWhile_blank cs
    rw [hcs, List.head?_append, show trimEnd (cs.dropWhile isBlank) = trim cs from rfl,
      Option.mem_def.mp hc]
    rfl
  · intro c hc
    apply head?_dropWhile_blank (cs.dropWhile isBlank).reverse
    rwa [trim, trimEnd, List.getLast?_reverse] at hc

/-- There is one way to trim a text. -/
theorem Trimmed.trim_eq (h : Trimmed cs kept) : trim cs = kept := by
  obtain ⟨before, after, rfl, hbefore, hafter⟩ := h.around
  rw [trim, List.append_assoc, List.dropWhile_append_of_pos hbefore]
  cases kept with
  | nil =>
    rw [List.nil_append, ← List.append_nil after, List.dropWhile_append_of_pos hafter]
    rfl
  | cons c rest =>
    have hfirst : ¬ isBlank c = true := by simp [h.first c rfl]
    have hstart : (c :: rest).dropWhile isBlank = c :: rest := List.dropWhile_cons_of_neg hfirst
    rw [List.cons_append, List.dropWhile_cons_of_neg hfirst, ← List.cons_append,
      trimEnd_append_blanks hafter]
    have hself := trim_eq_self h.first h.last
    rwa [trim, hstart] at hself

/-- Blanks around a text make no difference. -/
theorem trim_between_blanks {before after : List Char} (hbefore : ∀ c ∈ before, isBlank c = true)
    (hafter : ∀ c ∈ after, isBlank c = true) (cs : List Char) :
    trim (before ++ cs ++ after) = trim cs := by
  have h := trimmed_trim cs
  obtain ⟨front, rear, hcs, hfront, hrear⟩ := h.around
  refine Trimmed.trim_eq ⟨⟨before ++ front, rear ++ after, ?_, ?_, ?_⟩, h.first, h.last⟩
  · calc before ++ cs ++ after
        = before ++ (front ++ trim cs ++ rear) ++ after := congrArg (before ++ · ++ after) hcs
      _ = before ++ front ++ trim cs ++ (rear ++ after) := by simp only [List.append_assoc]
  · exact List.forall_mem_append.mpr ⟨hbefore, hfront⟩
  · exact List.forall_mem_append.mpr ⟨hrear, hafter⟩

end ColumnWire.Blank

import ColumnWire.Migration.Statement
import ColumnWire.Proofs.Text.Trim

/-!
# The lines of a text

`Lines` says what the lines of a text are without cutting it: each ends at the first line break behind
its start, and the last may have none. There is one way to cut a text so (`lines_iff`), and any run of
lines is the lines of what it comes to (`Lines.of_append`). Blanks around a text do not change
whether one of its lines is the marker (`hasMarker_trim`).
-/
namespace ColumnWire.Statement

variable {c : Char} {cs line : List Char} {ls : List (List Char)}

/-- The lines of a text, each with the line break that ends it. -/
inductive Lines : List Char → List (List Char) → Prop
  | nil : Lines [] []
  | last {line : List Char} (hline : '\n' ∉ line) (hne : line ≠ []) : Lines line [line]
  | more {line cs : List Char} {ls : List (List Char)} (hline : '\n' ∉ line) (hrest : Lines cs ls) :
      Lines (line ++ '\n' :: cs) ((line ++ ['\n']) :: ls)

theorem Lines.flatten (h : Lines cs ls) : ls.flatten = cs := by
  induction h with
  | nil => rfl
  | last => exact List.flatten_singleton
  | more hline hrest ih => rw [List.flatten_cons, ih, List.append_assoc, List.singleton_append]

/-- **Any run of lines is the lines of what it comes to.** -/
theorem Lines.of_append {xs ys : List (List Char)} (h : Lines cs (xs ++ ys)) :
    Lines xs.flatten xs ∧ Lines ys.flatten ys := by
  induction xs generalizing cs with
  | nil =>
    have hall := h.flatten
    rw [List.nil_append] at h hall
    exact ⟨.nil, hall ▸ h⟩
  | cons x xs ih =>
    generalize hall : x :: xs ++ ys = all at h
    cases h with
    | nil => cases hall
    | last hline hne =>
      obtain ⟨rfl, hnone⟩ := List.cons.inj hall
      obtain ⟨rfl, rfl⟩ := List.append_eq_nil_iff.mp hnone
      rw [List.flatten_singleton]
      exact ⟨.last hline hne, .nil⟩
    | more hline hrest =>
      obtain ⟨rfl, rfl⟩ := List.cons.inj hall
      obtain ⟨hfirst, hsecond⟩ := ih hrest
      refine ⟨?_, hsecond⟩
      rw [List.flatten_cons, List.append_assoc, List.singleton_append]
      exact .more hline hfirst

/-! ## There is one way to cut a text into lines -/

/-- Put a character in front of the first line. -/
def consFirst (c : Char) : List (List Char) → List (List Char)
  | [] => [[c]]
  | line :: ls => (c :: line) :: ls

theorem lines_cons (c : Char) (cs : List Char) :
    lines (c :: cs) = if c = '\n' then ['\n'] :: lines cs else consFirst c (lines cs) := by
  obtain ⟨part, parts, hparts⟩ := List.exists_cons_of_ne_nil (List.splitOnP_ne_nil (· = '\n') cs)
  simp only [lines, List.splitOnP_cons_eq_if_modifyHead, hparts]
  by_cases hc : c = '\n'
  · simp [hc]
  · cases parts with
    | nil => cases part <;> simp [hc, consFirst]
    | cons second parts => simp [hc, consFirst]

/-- A text up to a line break is a line. -/
theorem lines_append (hline : '\n' ∉ line) (cs : List Char) :
    lines (line ++ '\n' :: cs) = (line ++ ['\n']) :: lines cs := by
  induction line with
  | nil => rw [List.nil_append, lines_cons, if_pos rfl, List.nil_append]
  | cons c line ih =>
    rw [List.mem_cons, not_or] at hline
    obtain ⟨hc, hline⟩ := hline
    rw [List.cons_append, lines_cons, if_neg (Ne.symm hc), ih hline]
    rfl

/-- A text without a line break is a line. -/
theorem lines_last (hline : '\n' ∉ line) (hne : line ≠ []) : lines line = [line] := by
  induction line with
  | nil => exact absurd rfl hne
  | cons c line ih =>
    rw [List.mem_cons, not_or] at hline
    obtain ⟨hc, hline⟩ := hline
    rw [lines_cons, if_neg (Ne.symm hc)]
    by_cases hnil : line = []
    · rw [hnil]
      rfl
    · rw [ih hline hnil]
      rfl

theorem Lines.consFirst (hc : c ≠ '\n') (h : Lines cs ls) : Lines (c :: cs) (consFirst c ls) := by
  have hcons : ∀ line : List Char, '\n' ∉ line → '\n' ∉ c :: line := by
    intro line hline
    rw [List.mem_cons, not_or]
    exact ⟨hc.symm, hline⟩
  cases h with
  | nil => exact .last (hcons [] (by simp)) (by simp)
  | last hline hne => exact .last (hcons _ hline) (by simp)
  | more hline hrest => exact .more (hcons _ hline) hrest

theorem lines_iff : Lines cs ls ↔ ls = lines cs := by
  constructor
  · intro h
    induction h with
    | nil => rfl
    | last hline hne => exact (lines_last hline hne).symm
    | more hline hrest ih => rw [lines_append hline, ih]
  · rintro rfl
    induction cs with
    | nil => exact .nil
    | cons c cs ih =>
      rw [lines_cons]
      by_cases hc : c = '\n'
      · have hnone : '\n' ∉ ([] : List Char) := by simp
        rw [if_pos hc, hc]
        exact .more hnone ih
      · rw [if_neg hc]
        exact .consFirst hc ih

/-- The lines up to any line break do not depend on what follows it. -/
theorem lines_append_break (text cs : List Char) :
    lines (text ++ '\n' :: cs) = lines (text ++ ['\n']) ++ lines cs := by
  induction text with
  | nil =>
    rw [List.nil_append, List.nil_append, lines_cons, if_pos rfl]
    rfl
  | cons c text ih =>
    rw [List.cons_append, List.cons_append, lines_cons, lines_cons, ih]
    by_cases hc : c = '\n'
    · rw [if_pos hc, if_pos hc, List.cons_append]
    · rw [if_neg hc, if_neg hc]
      cases hlines : lines (text ++ ['\n']) with
      | nil =>
        have hall := Lines.flatten (lines_iff.mpr rfl : Lines (text ++ ['\n']) _)
        rw [hlines] at hall
        simp at hall
      | cons line ls => rfl

/-! ## Blanks and the marker -/

/-- Whether one of the lines of a text is the marker. -/
def hasMarker (cs : List Char) : Bool := (lines cs).any isMarker

theorem isMarker_between_blanks {before after : List Char} (hbefore : ∀ c ∈ before, Blank.isBlank c = true)
    (hafter : ∀ c ∈ after, Blank.isBlank c = true) (line : List Char) :
    isMarker (before ++ line ++ after) = isMarker line := by
  rw [isMarker, Blank.trim_between_blanks hbefore hafter, isMarker]

theorem isMarker_cons_blank (hc : Blank.isBlank c = true) (line : List Char) :
    isMarker (c :: line) = isMarker line := by
  have h := isMarker_between_blanks (List.forall_mem_singleton.mpr hc) (List.forall_mem_nil _) line
  rwa [List.append_nil] at h

theorem isMarker_append_blank (hc : Blank.isBlank c = true) (line : List Char) :
    isMarker (line ++ [c]) = isMarker line :=
  isMarker_between_blanks (List.forall_mem_nil _) (List.forall_mem_singleton.mpr hc) line

theorem hasMarker_cons_blank (hc : Blank.isBlank c = true) (cs : List Char) :
    hasMarker (c :: cs) = hasMarker cs := by
  rw [hasMarker, hasMarker, lines_cons]
  by_cases hbreak : c = '\n'
  · rw [if_pos hbreak, List.any_cons]
    rfl
  · rw [if_neg hbreak]
    cases lines cs with
    | nil => rw [consFirst, List.any_cons, isMarker_cons_blank hc, List.any_nil]; rfl
    | cons line ls => rw [consFirst, List.any_cons, isMarker_cons_blank hc, List.any_cons]

/-- A character behind a text goes to the end of its last line, or is a line of its own. -/
theorem lines_concat (cs : List Char) (c : Char) :
    lines (cs ++ [c]) = lines cs ++ [[c]] ∨
      ∃ ls last, lines cs = ls ++ [last] ∧ lines (cs ++ [c]) = ls ++ [last ++ [c]] := by
  induction cs with
  | nil =>
    refine .inl ?_
    rw [List.nil_append, lines_cons]
    split
    · next hc => rw [hc]; rfl
    · rfl
  | cons d cs ih =>
    rw [List.cons_append, lines_cons, lines_cons]
    by_cases hd : d = '\n'
    · rw [if_pos hd, if_pos hd]
      rcases ih with hnew | ⟨ls, last, hold, hnew⟩
      · exact .inl (by rw [hnew, List.cons_append])
      · exact .inr ⟨['\n'] :: ls, last, by rw [hold, List.cons_append], by rw [hnew, List.cons_append]⟩
    · rw [if_neg hd, if_neg hd]
      rcases ih with hnew | ⟨ls, last, hold, hnew⟩
      · rw [hnew]
        cases lines cs with
        | nil => exact .inr ⟨[], [d], rfl, rfl⟩
        | cons line ls => exact .inl rfl
      · rw [hold, hnew]
        cases ls with
        | nil => exact .inr ⟨[], d :: last, rfl, rfl⟩
        | cons line ls => exact .inr ⟨(d :: line) :: ls, last, rfl, rfl⟩

theorem hasMarker_append_blank (hc : Blank.isBlank c = true) (cs : List Char) :
    hasMarker (cs ++ [c]) = hasMarker cs := by
  have hblank : isMarker [c] = false := isMarker_append_blank hc []
  rw [hasMarker, hasMarker]
  rcases lines_concat cs c with hnew | ⟨ls, last, hold, hnew⟩
  · simp [hnew, hblank]
  · simp [hold, hnew, isMarker_append_blank hc]

/-- **Blanks around a text do not change whether one of its lines is the marker.** -/
theorem hasMarker_between_blanks {before after : List Char} (hbefore : ∀ c ∈ before, Blank.isBlank c = true)
    (hafter : ∀ c ∈ after, Blank.isBlank c = true) (cs : List Char) :
    hasMarker (before ++ cs ++ after) = hasMarker cs := by
  induction after generalizing cs with
  | nil =>
    rw [List.append_nil]
    induction before with
    | nil => rfl
    | cons c before ih =>
      obtain ⟨hc, hbefore⟩ := List.forall_mem_cons.mp hbefore
      rw [List.cons_append, hasMarker_cons_blank hc, ih hbefore]
  | cons c after ih =>
    obtain ⟨hc, hafter⟩ := List.forall_mem_cons.mp hafter
    have hnext := ih hafter (cs ++ [c])
    rwa [hasMarker_append_blank hc, List.append_assoc, List.append_assoc, List.singleton_append,
      ← List.append_assoc] at hnext

theorem hasMarker_trim (cs : List Char) : hasMarker (Blank.trim cs) = hasMarker cs := by
  obtain ⟨before, after, hcs, hbefore, hafter⟩ := (Blank.trimmed_trim cs).around
  calc hasMarker (Blank.trim cs)
      = hasMarker (before ++ Blank.trim cs ++ after) := (hasMarker_between_blanks hbefore hafter _).symm
    _ = hasMarker cs := by rw [← hcs]

end ColumnWire.Statement

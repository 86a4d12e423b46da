import ColumnWire.Proofs.Migration.Lines

/-!
# Which statements a text holds

The statements are what stands between the marker lines of a text (`Grouped`). They can be cut out of
it by byte offsets, none of which falls into a character (`splitByOffset_eq`). Each statement is one
that can stand in such a text, nothing but blanks and marker lines is lost on the way
(`solid_split`), and statements with marker lines between them are found again (`split_join`).
-/
namespace ColumnWire.Statement

variable {ls : List (List Char)} {groups : List (List (List Char))} {group : List (List Char)}
  {text t : String}

/-! ## Groups of lines -/

/-- Groups of lines without a marker, and a marker line between each two groups. -/
inductive Grouped : List (List Char) → List (List (List Char)) → Prop
  | last {group : List (List Char)} (hgroup : ∀ line ∈ group, isMarker line = false) :
      Grouped group [group]
  | more {group ls : List (List Char)} {mark : List Char} {groups : List (List (List Char))}
      (hgroup : ∀ line ∈ group, isMarker line = false) (hmark : isMarker mark = true)
      (hrest : Grouped ls groups) : Grouped (group ++ mark :: ls) (group :: groups)

/-- A line in front of the first group. -/
theorem Grouped.cons {line : List Char} (hline : isMarker line = false) (h : Grouped ls groups) :
    Grouped (line :: ls) (groups.modifyHead (line :: ·)) := by
  cases h with
  | last hgroup => exact .last (List.forall_mem_cons.mpr ⟨hline, hgroup⟩)
  | more hgroup hmark hrest => exact .more (List.forall_mem_cons.mpr ⟨hline, hgroup⟩) hmark hrest

/-- There is one way to group lines. -/
theorem grouped_iff : Grouped ls groups ↔ groups = ls.splitOnP isMarker := by
  constructor
  · intro h
    induction h with
    | last hgroup => rw [List.splitOnP_eq_singleton hgroup]
    | more hgroup hmark hrest ih => rw [List.splitOnP_append_cons_of_forall_mem hgroup _ hmark, ih]
  · rintro rfl
    induction ls with
    | nil => exact .last (by simp)
    | cons line ls ih =>
      rw [List.splitOnP_cons_eq_if_modifyHead]
      by_cases hline : isMarker line = true
      · have hnone : ∀ line ∈ ([] : List (List Char)), isMarker line = false := by simp
        rw [if_pos hline]
        exact .more hnone hline ih
      · rw [if_neg hline]
        exact ih.cons (Bool.eq_false_iff.mpr hline)

/-- A group has no marker, and its lines are the lines of what it comes to. -/
theorem Grouped.mem (h : Grouped ls groups) {cs : List Char} (hlines : Lines cs ls)
    (hgroup : group ∈ groups) : Lines group.flatten group ∧ ∀ line ∈ group, isMarker line = false := by
  induction h generalizing cs with
  | last hfree =>
    obtain rfl := List.mem_singleton.mp hgroup
    rw [hlines.flatten]
    exact ⟨hlines, hfree⟩
  | @more first ls mark groups hfree hmark hrest ih =>
    obtain ⟨hfirst, hbehind⟩ := hlines.of_append
    rcases List.mem_cons.mp hgroup with rfl | hgroup
    · exact ⟨hfirst, hfree⟩
    · rw [← List.singleton_append] at hbehind
      exact ih hbehind.of_append.2 hgroup

/-- All lines of the groups are those that are no markers, in their order. -/
theorem Grouped.flatten (h : Grouped ls groups) : groups.flatten = ls.filter (!isMarker ·) := by
  induction h with
  | last hgroup =>
    rw [List.flatten_singleton, eq_comm, List.filter_eq_self]
    intro line hline
    rw [hgroup line hline]
    rfl
  | more hgroup hmark hrest ih =>
    rw [List.flatten_cons, ih, List.filter_append, List.filter_cons_of_neg (by simp [hmark]), eq_comm,
      List.append_left_inj, List.filter_eq_self]
    intro line hline
    rw [hgroup line hline]
    rfl

/-- The statements of a text, from any account of its lines and their groups. -/
theorem split_eq (hlines : Lines text.toList ls) (h : Grouped ls groups) :
    split text =
      ((groups.map fun group => Blank.trim group.flatten).filter (· ≠ [])).map String.ofList := by
  rw [grouped_iff.mp h, lines_iff.mp hlines, split, parts, List.map_map]
  rfl

theorem exists_grouped (text : String) :
    ∃ ls groups, Lines text.toList ls ∧ Grouped ls groups :=
  ⟨_, _, lines_iff.mpr rfl, grouped_iff.mpr rfl⟩

/-! ## What a statement is -/

/-- A text that can be one of several statements. -/
structure IsStatement (text : String) : Prop where
  trimmed : Blank.trimText text = text
  ne_empty : text ≠ ""
  no_marker : hasMarker text.toList = false

theorem isStatement_of_mem (h : t ∈ split text) : IsStatement t := by
  obtain ⟨ls, groups, hlines, hgrouped⟩ := exists_grouped text
  rw [split_eq hlines hgrouped] at h
  obtain ⟨cs, hcs, rfl⟩ := List.mem_map.mp h
  obtain ⟨hmem, hne⟩ := List.mem_filter.mp hcs
  obtain ⟨group, hgroup, rfl⟩ := List.mem_map.mp hmem
  obtain ⟨hown, hfree⟩ := hgrouped.mem hlines hgroup
  have htrimmed := Blank.trimmed_trim group.flatten
  refine ⟨?_, ?_, ?_⟩
  · rw [Blank.trimText, String.toList_ofList, Blank.trim_eq_self htrimmed.first htrimmed.last]
  · intro hempty
    have hnil := congrArg String.toList hempty
    rw [String.toList_ofList] at hnil
    exact of_decide_eq_true hne hnil
  · rw [String.toList_ofList, hasMarker_trim, hasMarker, ← lines_iff.mp hown, List.any_eq_false]
    intro line hline
    rw [hfree line hline]
    simp

/-- The characters that are not blank. -/
def solid (cs : List Char) : List Char := cs.filter (!Blank.isBlank ·)

theorem solid_trim (cs : List Char) : solid (Blank.trim cs) = solid cs := by
  obtain ⟨before, after, hcs, hbefore, hafter⟩ := (Blank.trimmed_trim cs).around
  have hnone : ∀ blanks : List Char, (∀ c ∈ blanks, Blank.isBlank c = true) → solid blanks = [] := by
    intro blanks hblanks
    rw [solid, List.filter_eq_nil_iff]
    intro c hc
    simp [hblanks c hc]
  calc solid (Blank.trim cs)
      = solid (before ++ Blank.trim cs ++ after) := by
        simp only [solid, List.filter_append] at hnone ⊢
        rw [hnone before hbefore, hnone after hafter, List.nil_append, List.append_nil]
    _ = solid cs := by rw [← hcs]

/-- **Nothing is lost but blanks and marker lines.** -/
theorem solid_split (text : String) :
    solid ((split text).flatMap String.toList) =
      solid ((lines text.toList).filter (!isMarker ·)).flatten := by
  obtain ⟨ls, groups, hlines, hgrouped⟩ := exists_grouped text
  rw [split_eq hlines hgrouped, ← lines_iff.mp hlines, ← hgrouped.flatten]
  clear hlines hgrouped
  induction groups with
  | nil => rfl
  | cons group groups ih =>
    have hfirst := solid_trim group.flatten
    rw [List.flatten_cons, List.flatten_append, List.map_cons]
    simp only [solid, List.filter_append] at ih hfirst ⊢
    by_cases hempty : Blank.trim group.flatten = []
    · rw [List.filter_cons_of_neg (by simp [hempty]), ih, ← hfirst, hempty, List.filter_nil,
        List.nil_append]
    · rw [List.filter_cons_of_pos (by simp [hempty]), List.map_cons, List.flatMap_cons,
        String.toList_ofList, List.filter_append, ih, hfirst]

/-! ## By byte offsets -/

/-- The bytes of a text between two offsets, if there are so many of them and no character is cut. -/
def slice? (text : String) (start stop : Nat) : Option String :=
  if h : start ≤ stop ∧ String.Pos.Raw.IsValid text ⟨start⟩ ∧ String.Pos.Raw.IsValid text ⟨stop⟩ then
    some (text.extract ⟨⟨start⟩, h.2.1⟩ ⟨⟨stop⟩, h.2.2⟩)
  else none

/-- Go through the lines, of which the first stands at `offset`, and cut off what has come since
`start` in front of each marker line, and what is left at the end. -/
def splitFrom (text : String) (start offset : Nat) : List (List Char) → Option (List String)
  | [] => (slice? text start text.utf8ByteSize).map ([·])
  | line :: ls =>
    let behind := offset + (String.ofList line).utf8ByteSize
    if isMarker line then do
      let part ← slice? text start offset
      let parts ← splitFrom text behind behind ls
      return part :: parts
    else splitFrom text start behind ls

/-- The statements of a text, cut out by byte offsets. -/
def splitByOffset (text : String) : Option (List String) :=
  (splitFrom text 0 0 (lines text.toList)).map fun parts => (parts.map Blank.trimText).filter (· ≠ "")

/-- What stands between two other parts of a text is between the offsets of its ends. -/
theorem slice?_append (before part after : String) :
    slice? (before ++ part ++ after) before.utf8ByteSize (before ++ part).utf8ByteSize = some part := by
  have hle : before.utf8ByteSize ≤ (before ++ part).utf8ByteSize := by simp
  have hstart : String.Pos.Raw.IsValid (before ++ part ++ after) ⟨before.utf8ByteSize⟩ :=
    String.Pos.Raw.isValid_iff_exists_append.mpr ⟨before, part ++ after, String.append_assoc, rfl⟩
  have hstop : String.Pos.Raw.IsValid (before ++ part ++ after) ⟨(before ++ part).utf8ByteSize⟩ :=
    String.Pos.Raw.isValid_iff_exists_append.mpr ⟨before ++ part, after, rfl, rfl⟩
  rw [slice?, dif_pos ⟨hle, hstart, hstop⟩]
  obtain ⟨h, hslice⟩ : ∃ h, ((before ++ part ++ after).slice ⟨⟨before.utf8ByteSize⟩, hstart⟩
      ⟨⟨(before ++ part).utf8ByteSize⟩, hstop⟩ h).copy = part :=
    String.copy_slice_eq_iff_splits.mpr ⟨before, after, ⟨String.append_assoc, rfl⟩, ⟨rfl, rfl⟩⟩
  exact congrArg some ((String.extract_eq_copy_slice _ _ h).trans hslice)

/-- The offsets stay where the lines do: `part` is what has come since the last marker. -/
theorem splitFrom_eq (before part : String) (ls : List (List Char)) :
    splitFrom (before ++ part ++ String.ofList ls.flatten) before.utf8ByteSize
        (before ++ part).utf8ByteSize ls =
      some (((ls.splitOnP isMarker).map fun group => String.ofList group.flatten).modifyHead
        (part ++ ·)) := by
  induction ls generalizing before part with
  | nil =>
    have hslice := slice?_append before part ""
    rw [String.append_empty] at hslice
    rw [List.flatten_nil, String.ofList_nil, String.append_empty, splitFrom, hslice]
    simp
  | cons line ls ih =>
    have hoffset : (before ++ part).utf8ByteSize + (String.ofList line).utf8ByteSize =
        (before ++ part ++ String.ofList line).utf8ByteSize := String.utf8ByteSize_append.symm
    have htext : before ++ part ++ String.ofList (line :: ls).flatten =
        before ++ part ++ String.ofList line ++ String.ofList ls.flatten := by
      rw [List.flatten_cons, String.ofList_append]
      simp only [String.append_assoc]
    rw [splitFrom, hoffset, List.splitOnP_cons_eq_if_modifyHead]
    by_cases hline : isMarker line = true
    · have hslice := slice?_append before part (String.ofList (line :: ls).flatten)
      have hnext := ih (before ++ part ++ String.ofList line) ""
      rw [String.append_empty] at hnext
      rw [if_pos hline, if_pos hline, hslice, htext, hnext]
      obtain ⟨group, groups, hgroups⟩ := List.exists_cons_of_ne_nil (List.splitOnP_ne_nil isMarker ls)
      simp [hgroups]
    · have hnext := ih before (part ++ String.ofList line)
      rw [← String.append_assoc] at hnext
      rw [if_neg hline, if_neg hline, htext, hnext]
      obtain ⟨group, groups, hgroups⟩ := List.exists_cons_of_ne_nil (List.splitOnP_ne_nil isMarker ls)
      simp [hgroups, String.append_assoc]

/-- **No offset falls into a character**, and the offsets are those of the statements. -/
theorem splitByOffset_eq (text : String) : splitByOffset text = some (split text) := by
  have hlines : (lines text.toList).flatten = text.toList := Lines.flatten (lines_iff.mpr rfl)
  have hnothing : ∀ parts : List String, parts.modifyHead ("" ++ ·) = parts := by
    intro parts
    cases parts <;> simp
  have hempty : ∀ cs : List Char, decide (String.ofList cs ≠ "") = decide (cs ≠ []) := by simp
  have hfrom := splitFrom_eq "" "" (lines text.toList)
  rw [hlines, hnothing, String.empty_append, String.empty_append, String.ofList_toList,
    String.utf8ByteSize_empty] at hfrom
  rw [splitByOffset, hfrom, Option.map_some, split, parts]
  simp only [List.map_map, List.filter_map, Function.comp_def, Blank.trimText, String.toList_ofList,
    hempty]

/-! ## Joining -/

/-- Statements with a marker line between each two. -/
def join (mark : String) (statements : List String) : String :=
  ("\n" ++ mark ++ "\n").intercalate statements

/-- A line that separates statements, without the line break at its end. -/
structure IsMark (mark : String) : Prop where
  no_break : '\n' ∉ mark.toList
  trimmed : Blank.trimText mark = "--migration:split"

theorem IsStatement.trim_eq (h : IsStatement t) : Blank.trim t.toList = t.toList := by
  have htrimmed := congrArg String.toList h.trimmed
  rwa [Blank.trimText, String.toList_ofList] at htrimmed

theorem IsStatement.toList_ne_nil (h : IsStatement t) : t.toList ≠ [] := by
  intro hnil
  exact h.ne_empty (String.toList_eq_nil_iff.mp hnil)

theorem IsStatement.no_markers (h : IsStatement t) : ∀ line ∈ lines t.toList, isMarker line = false := by
  have hnone := List.any_eq_false.mp h.no_marker
  intro line hline
  exact Bool.eq_false_iff.mpr (hnone line hline)

/-- A statement alone is all there is in a text. -/
theorem split_single (h : IsStatement t) : split t = [t] := by
  have hlines : (lines t.toList).flatten = t.toList := Lines.flatten (lines_iff.mpr rfl)
  rw [split, parts, List.splitOnP_eq_singleton h.no_markers, List.map_singleton, hlines,
    List.map_singleton, h.trim_eq, List.filter_cons_of_pos (by simpa using h.toList_ne_nil), List.filter_nil,
    List.map_singleton, String.ofList_toList]

/-- A statement in front of a marker line is the first of its text. -/
theorem split_append {mark : String} (hmark : IsMark mark) (h : IsStatement t) (rest : String) :
    split (t ++ ("\n" ++ mark ++ "\n") ++ rest) = t :: split rest := by
  have htext : (t ++ ("\n" ++ mark ++ "\n") ++ rest).toList =
      t.toList ++ '\n' :: (mark.toList ++ '\n' :: rest.toList) := by
    simp
  have hbreak : ∀ c ∈ ['\n'], Blank.isBlank c = true := List.forall_mem_singleton.mpr (by decide)
  have hfree : ∀ line ∈ lines (t.toList ++ ['\n']), isMarker line = false := by
    have hnone := h.no_marker
    rw [← hasMarker_append_blank (by decide : Blank.isBlank '\n' = true)] at hnone
    intro line hline
    exact Bool.eq_false_iff.mpr (List.any_eq_false.mp hnone line hline)
  have hline : isMarker (mark.toList ++ ['\n']) = true := by
    have htrimmed := congrArg String.toList hmark.trimmed
    rw [Blank.trimText, String.toList_ofList] at htrimmed
    rw [isMarker_append_blank (by decide), isMarker, htrimmed]
    rfl
  have hparts : parts (t.toList ++ '\n' :: (mark.toList ++ '\n' :: rest.toList)) =
      (t.toList ++ ['\n']) :: parts rest.toList := by
    rw [parts, lines_append_break, lines_append hmark.no_break,
      List.splitOnP_append_cons_of_forall_mem hfree _ hline, List.map_cons,
      Lines.flatten (lines_iff.mpr rfl), parts]
  have htrim : Blank.trim (t.toList ++ ['\n']) = t.toList :=
    (Blank.trim_between_blanks (List.forall_mem_nil _) hbreak t.toList).trans h.trim_eq
  rw [split, htext, hparts, List.map_cons, htrim, List.filter_cons_of_pos (by simpa using h.toList_ne_nil),
    List.map_cons, String.ofList_toList, split]

/-- **Statements with marker lines between them are found again.** -/
theorem split_join {mark : String} (hmark : IsMark mark) {statements : List String}
    (h : ∀ t ∈ statements, IsStatement t) : split (join mark statements) = statements := by
  induction statements with
  | nil => rfl
  | cons t statements ih =>
    obtain ⟨ht, hrest⟩ := List.forall_mem_cons.mp h
    cases statements with
    | nil =>
      rw [join, String.intercalate_singleton]
      exact split_single ht
    | cons u statements =>
      rw [join, String.intercalate_cons_cons, split_append hmark ht]
      exact congrArg (t :: ·) (ih hrest)

/-- **A text is cut exactly at its marker lines.** The statements can be cut out by byte offsets, of
which none is out of bounds or falls into a character. They are what the groups of lines between the
marker lines come to, trimmed, without those that are empty. Each can stand in such a text, and only
blanks and marker lines are lost. Statements with marker lines between them are found again, those of
any text among them. -/
theorem split_exact :
    (∀ text, splitByOffset text = some (split text)) ∧
    (∀ text : String, ∃ ls groups, Lines text.toList ls ∧ Grouped ls groups) ∧
    (∀ (text : String) ls groups, Lines text.toList ls → Grouped ls groups → split text =
      ((groups.map fun group => Blank.trim group.flatten).filter (· ≠ [])).map String.ofList) ∧
    (∀ text, ∀ t ∈ split text, IsStatement t) ∧
    (∀ text : String, solid ((split text).flatMap String.toList) =
      solid ((lines text.toList).filter (!isMarker ·)).flatten) ∧
    (∀ mark statements, IsMark mark → (∀ t ∈ statements, IsStatement t) →
      split (join mark statements) = statements) ∧
    ∀ mark text, IsMark mark → split (join mark (split text)) = split text := by
  refine ⟨splitByOffset_eq, exists_grouped, ?_, ?_, solid_split, ?_, ?_⟩
  · intro text ls groups hlines hgrouped
    exact split_eq hlines hgrouped
  · intro text t h
    exact isStatement_of_mem h
  · intro mark statements hmark h
    exact split_join hmark h
  · intro mark text hmark
    refine split_join hmark ?_
    intro t h
    exact isStatement_of_mem h

/-- Two statements, of which one has a character of several bytes, and a marker line that ends with
two characters. -/
theorem split_exact_two :
    split (join "--migration:split\r" ["SELECT 'é'", "SELECT\n2"]) = ["SELECT 'é'", "SELECT\n2"] ∧
      split (join "--migration:split" (split " a \n --migration:split \n\n")) = ["a"] ∧
      split "a" = (([[['a']]].map fun group => Blank.trim group.flatten).filter (· ≠ [])).map
        String.ofList ∧
      IsStatement "a" := by
  obtain ⟨-, -, hgroups, hmem, -, hjoin, hagain⟩ := split_exact
  have hsplit : split " a \n --migration:split \n\n" = ["a"] := by decide +kernel
  have hstatement : IsStatement "a" := by
    refine hmem " a \n --migration:split \n\n" "a" ?_
    rw [hsplit]
    exact List.mem_singleton_self _
  refine ⟨?_, ?_, ?_, hstatement⟩
  · refine hjoin _ _ ⟨by decide +kernel, by decide +kernel⟩ (List.forall_mem_cons.mpr ⟨?_, ?_⟩)
    · exact ⟨by decide +kernel, by decide +kernel, by decide +kernel⟩
    · exact List.forall_mem_singleton.mpr ⟨by decide +kernel, by decide +kernel, by decide +kernel⟩
  · exact (hagain _ _ ⟨by decide +kernel, by decide +kernel⟩).trans hsplit
  · exact hgroups "a" [['a']] [[['a']]] (.last (by decide) (by decide)) (.last (by decide))

end ColumnWire.Statement

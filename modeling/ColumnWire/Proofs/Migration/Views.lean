import ColumnWire.Proofs.Migration.Status

/-!
# Views of one list of migrations

What is applied is told by a sign, and listed by a sort; the last group is told by a maximum, and
listed by an equality. `Migrations.views_agree` says how far the four agree for numbers of any sign. As
soon as something is applied they do: the last group is that of the first applied one, and has those
applied with it. If nothing is applied, the highest number is zero only if some number is, and a list of
negative numbers has a last group that is not applied (`Migrations.last_group_unapplied`).
-/
namespace ColumnWire

/-- What comes first: by group and then by name, both falling. -/
theorem Migration.before_iff (a b : Migration) :
    a.before b = true ↔ b.group < a.group ∨ a.group = b.group ∧ b.name ≤ a.name := by
  simp [before]

theorem MigrationGroup.isZero_iff (g : MigrationGroup) : g.isZero = true ↔ g.id = 0 ∧ g.members = [] := by
  simp [isZero]

namespace Migrations

variable {ms : List Migration} {m first : Migration}

/-! ## Applied and unapplied ones -/

theorem before_trans (a b c : Migration) (hab : a.before b = true) (hbc : b.before c = true) :
    a.before c = true := by
  rw [Migration.before_iff] at hab hbc ⊢
  rcases hab with hab | ⟨hab, hname⟩
  · rcases hbc with hbc | ⟨hbc, -⟩
    · exact .inl (Int64.lt_trans hbc hab)
    · exact .inl (hbc ▸ hab)
  · rcases hbc with hbc | ⟨hbc, hname'⟩
    · exact .inl (hab ▸ hbc)
    · exact .inr ⟨hab.trans hbc, String.le_trans hname' hname⟩

theorem before_total (a b : Migration) : (a.before b || b.before a) = true := by
  rw [Bool.or_eq_true, Migration.before_iff, Migration.before_iff]
  by_cases hgroup : a.group = b.group
  · rcases String.le_total b.name a.name with hname | hname
    · exact .inl (.inr ⟨hgroup, hname⟩)
    · exact .inr (.inr ⟨hgroup.symm, hname⟩)
  · rcases Int64.le_total a.group b.group with hle | hle
    · exact .inr (.inl (Int64.lt_of_le_of_ne hle hgroup))
    · exact .inl (.inl (Int64.lt_of_le_of_ne hle (Ne.symm hgroup)))

theorem ordered_applied (ms : List Migration) :
    (applied ms).Pairwise fun a b => b.group < a.group ∨ a.group = b.group ∧ b.name ≤ a.name := by
  have hsorted := List.pairwise_mergeSort before_trans before_total (ms.filter Migration.isApplied)
  exact hsorted.imp fun h => (Migration.before_iff _ _).mp h

theorem applied_perm (ms : List Migration) : (applied ms).Perm (ms.filter Migration.isApplied) :=
  List.mergeSort_perm _ _

theorem mem_applied_iff : m ∈ applied ms ↔ m ∈ ms ∧ 0 < m.group := by
  rw [(applied_perm ms).mem_iff, List.mem_filter, Migration.isApplied, decide_eq_true_iff]

theorem mem_unapplied_iff : m ∈ unapplied ms ↔ m ∈ ms ∧ m.group ≤ 0 := by
  simp [unapplied, Migration.isApplied]

/-- Nothing is both, and nothing is neither. -/
theorem applied_append_unapplied (ms : List Migration) : (applied ms ++ unapplied ms).Perm ms :=
  ((applied_perm ms).append_right _).trans (List.filter_append_perm _ _)

/-- Nothing is applied exactly if no number is positive. -/
theorem applied_eq_nil_iff : applied ms = [] ↔ ∀ m ∈ ms, m.group ≤ 0 := by
  constructor
  · intro hnone m hm
    by_contra hpos
    have happlied : m ∈ applied ms := mem_applied_iff.mpr ⟨hm, Int64.not_le.mp hpos⟩
    rw [hnone] at happlied
    exact absurd happlied List.not_mem_nil
  · intro hall
    refine List.eq_nil_iff_forall_not_mem.mpr fun m hm => ?_
    obtain ⟨hmem, hpos⟩ := mem_applied_iff.mp hm
    exact Int64.not_le.mpr hpos (hall m hmem)

/-! ## The last group -/

/-- No number is above the last one. -/
theorem le_lastGroupId (hm : m ∈ ms) : m.group ≤ lastGroupId ms :=
  Int64.le_iff_toInt_le.mpr ((lastGroupId_spec (List.ne_nil_of_mem hm)).1 m hm)

/-- **The first applied one is in the last group.** -/
theorem lastGroupId_eq_head (hfirst : (applied ms).head? = some first) :
    lastGroupId ms = first.group := by
  obtain ⟨hmem, hpos⟩ := mem_applied_iff.mp (List.mem_of_mem_head? hfirst)
  obtain ⟨last, hlast, hid⟩ := (lastGroupId_spec (List.ne_nil_of_mem hmem)).2
  have hle := le_lastGroupId hmem
  refine Int64.le_antisymm ?_ hle
  -- Whoever has the last number is applied too, and no applied one is above the first one.
  have happlied : last ∈ applied ms := mem_applied_iff.mpr ⟨hlast, hid ▸ Int64.lt_of_lt_of_le hpos hle⟩
  rw [← hid]
  obtain ⟨rest, hrest⟩ := List.head?_eq_some_iff.mp hfirst
  have hordered := ordered_applied ms
  rw [hrest] at happlied hordered
  rcases List.mem_cons.mp happlied with rfl | hbehind
  · exact Int64.le_refl _
  · rcases (List.pairwise_cons.mp hordered).1 last hbehind with hless | ⟨hsame, -⟩
    · exact Int64.le_of_lt hless
    · exact Int64.le_of_eq hsame.symm

/-- If nothing is applied, the last number is zero exactly if there is no number but zero to be had. -/
theorem lastGroupId_eq_zero_iff :
    lastGroupId ms = 0 ↔ applied ms = [] ∧ (ms = [] ∨ ∃ m ∈ ms, m.group = 0) := by
  constructor
  · intro hzero
    refine ⟨applied_eq_nil_iff.mpr fun m hm => hzero ▸ le_lastGroupId hm, ?_⟩
    by_cases hne : ms = []
    · exact .inl hne
    · obtain ⟨m, hm, hid⟩ := (lastGroupId_spec hne).2
      exact .inr ⟨m, hm, hid.trans hzero⟩
  · rintro ⟨hnone, rfl | ⟨m, hm, hzero⟩⟩
    · rfl
    · obtain ⟨last, hlast, hid⟩ := (lastGroupId_spec (List.ne_nil_of_mem hm)).2
      have hle := applied_eq_nil_iff.mp hnone last hlast
      rw [hid] at hle
      exact Int64.le_antisymm hle (hzero ▸ le_lastGroupId hm)

theorem lastGroup_of_ne_zero (h : lastGroupId ms ≠ 0) :
    lastGroup ms = ⟨lastGroupId ms, ms.filter (·.group = lastGroupId ms)⟩ := by
  rw [lastGroup]
  exact if_neg h

/-- The last group is none exactly if its number is zero. -/
theorem isZero_lastGroup : (lastGroup ms).isZero = true ↔ lastGroupId ms = 0 := by
  by_cases hzero : lastGroupId ms = 0
  · have hnone : lastGroup ms = {} := if_pos hzero
    rw [hnone]
    exact ⟨fun _ => hzero, fun _ => rfl⟩
  · rw [lastGroup_of_ne_zero hzero, MigrationGroup.isZero_iff]
    exact ⟨fun h => h.1, fun h => absurd h hzero⟩

/-- A positive number belongs to applied ones alone. -/
theorem filter_group_perm {id : Int64} (hpos : 0 < id) :
    (ms.filter (·.group = id)).Perm ((applied ms).filter (·.group = id)) := by
  have hsame : (ms.filter Migration.isApplied).filter (·.group = id) = ms.filter (·.group = id) := by
    rw [List.filter_filter]
    refine List.filter_congr fun m _ => ?_
    by_cases hid : m.group = id
    · simp [hid, Migration.isApplied, hpos]
    · simp [hid]
  rw [← hsame]
  exact ((applied_perm ms).filter _).symm

/-- **The views agree as soon as something is applied.** The applied ones and the others are all of the
list, the first in falling order and the second in the order of the list. The last group is that of the
first applied one, and its members are those applied in it, in the order of the list. If nothing is
applied there is no last group, unless all numbers are negative. -/
theorem views_agree (ms : List Migration) :
    (applied ms ++ unapplied ms).Perm ms ∧
      (∀ m ∈ applied ms, 0 < m.group) ∧ (∀ m ∈ unapplied ms, m.group ≤ 0) ∧
      ((applied ms).Pairwise fun a b => b.group < a.group ∨ a.group = b.group ∧ b.name ≤ a.name) ∧
      (unapplied ms).Sublist ms ∧
      (∀ first ∈ (applied ms).head?,
        lastGroupId ms = first.group ∧ lastGroupId ms ≠ 0 ∧
        (lastGroup ms).isZero = false ∧ (lastGroup ms).id = first.group ∧
        (lastGroup ms).members.Sublist ms ∧
        (lastGroup ms).members.Perm ((applied ms).filter (·.group = first.group))) ∧
      (lastGroupId ms = 0 ↔ applied ms = [] ∧ (ms = [] ∨ ∃ m ∈ ms, m.group = 0)) ∧
      ((lastGroup ms).isZero = true ↔ applied ms = [] ∧ (ms = [] ∨ ∃ m ∈ ms, m.group = 0)) := by
  refine ⟨applied_append_unapplied ms, fun m hm => (mem_applied_iff.mp hm).2,
    fun m hm => (mem_unapplied_iff.mp hm).2, ordered_applied ms, List.filter_sublist,
    fun first hfirst => ?_, lastGroupId_eq_zero_iff, isZero_lastGroup.trans lastGroupId_eq_zero_iff⟩
  have hid : lastGroupId ms = first.group := lastGroupId_eq_head hfirst
  have hpos : 0 < lastGroupId ms := hid ▸ (mem_applied_iff.mp (List.mem_of_mem_head? hfirst)).2
  have hne : lastGroupId ms ≠ 0 := fun hzero => Int64.lt_irrefl (hzero ▸ hpos)
  have hgroup := lastGroup_of_ne_zero hne
  refine ⟨hid, hne, ?_, ?_, ?_, ?_⟩
  · exact Bool.eq_false_iff.mpr fun hzero => hne (isZero_lastGroup.mp hzero)
  · rw [hgroup]
    exact hid
  · rw [hgroup]
    exact List.filter_sublist
  · rw [hgroup, ← hid]
    exact filter_group_perm hpos

/-- Two groups, and two that are not applied. The members of the last group are listed by name
among the applied ones, and as they come in the group. -/
theorem views_agree_mixed :
    let a : Migration := { name := "a", group := 1 }
    let b : Migration := { name := "b", group := 2 }
    let c : Migration := { name := "c", group := 2 }
    let ms : List Migration := [b, { name := "x", group := -1 }, a, c, { name := "y" }]
    applied ms = [c, b, a] ∧ (lastGroup ms).members = [b, c] ∧ lastGroupId ms = c.group ∧
      (lastGroup ms).members.Perm ((applied ms).filter (·.group = c.group)) := by
  intro a b c ms
  have hperm : (applied ms).Perm [c, b, a] := (applied_perm ms).trans (by decide)
  have happlied : applied ms = [c, b, a] := by
    refine List.Perm.eq_of_pairwise (fun u v hu hv => ?_) (ordered_applied ms) (by decide) hperm
    exact (by decide : ∀ u ∈ [c, b, a], ∀ v ∈ [c, b, a],
      v.group < u.group ∨ u.group = v.group ∧ v.name ≤ u.name →
        u.group < v.group ∨ v.group = u.group ∧ u.name ≤ v.name → u = v) u (hperm.mem_iff.mp hu) v hv
  have hfirst : c ∈ (applied ms).head? := by simp [happlied]
  obtain ⟨hid, -, -, -, -, hmembers⟩ := (views_agree ms).2.2.2.2.2.1 c hfirst
  exact ⟨happlied, by decide, hid, hmembers⟩

/-- **A group with a negative number is a last group that is not applied.** -/
theorem last_group_unapplied :
    let ms : List Migration := [{ name := "a", group := -1 }]
    applied ms = [] ∧ lastGroupId ms = -1 ∧ lastGroup ms = ⟨-1, ms⟩ ∧
      ¬(lastGroupId ms = 0 ↔ applied ms = []) ∧ ¬((lastGroup ms).isZero = true ↔ applied ms = []) := by
  intro ms
  have hnone : applied ms = [] := applied_eq_nil_iff.mpr (by decide)
  have hid : lastGroupId ms = -1 := rfl
  refine ⟨hnone, hid, by decide, fun h => ?_, fun h => ?_⟩
  · exact absurd (hid.symm.trans (h.mpr hnone)) (by decide)
  · exact absurd (h.mpr hnone) (by decide)

end Migrations

end ColumnWire

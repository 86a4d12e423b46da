import ColumnWire.Proofs.Log
import ColumnWire.Proofs.Settings.Built
import Mathlib.Data.List.Induction

/-!
# The order of settings

Settings are changed by edits, of which each gives one name a value or takes one out. A name has the
value of the last edit of it, if that one gave it a value (`Settings.LastSet`). Where it stands among
the others was decided earlier, when it was set and had not been there (`Settings.FirstSet`): what
is set again keeps its place, and what was taken out and is set again comes last. So the names are in
the order of these moments after any edits (`Settings.insertion_ordered`), and settings are what some
edits left, however they came about (`Settings.built_iff`).
-/
namespace ColumnWire

namespace Settings

/-- A change of settings. -/
inductive Edit where
  | set (name : String) (value : Setting)
  | remove (name : String)
deriving Repr, DecidableEq

namespace Edit

/-- The name that is given a value or taken out. -/
def name : Edit → String
  | .set name _ => name
  | .remove name => name

/-- The settings after one more edit. -/
def apply (s : Settings) : Edit → Settings
  | .set name value => s.set name value
  | .remove name => (s.remove name).2

end Edit

/-- The settings after edits, when there was nothing before. -/
def after (edits : List Edit) : Settings := edits.foldl Edit.apply {}

/-- The last edit of a name gave it the value. -/
def LastSet (edits : List Edit) (name : String) (value : Setting) : Prop :=
  ∃ before later, edits = before ++ .set name value :: later ∧ ∀ edit ∈ later, edit.name ≠ name

/-- At the place a name was set that was not there before, and it was not taken out since. -/
def FirstSet (edits : List Edit) (name : String) (place : Nat) : Prop :=
  ∃ before value later, edits = before ++ .set name value :: later ∧ before.length = place ∧
    (∀ old, ¬LastSet before name old) ∧ .remove name ∉ later

variable {s : Settings} {name : String} {value old : Setting} {front rest : List (String × Setting)}

/-! ## One change -/

theorem get?_cons (entry : String × Setting) (entries : List (String × Setting)) (name : String) :
    get? ⟨entry :: entries⟩ name = if entry.1 = name then some entry.2 else get? ⟨entries⟩ name := by
  by_cases hname : entry.1 = name <;> simp [get?, hname]

theorem mem_names_iff : name ∈ s.names ↔ ∃ value, s.get? name = some value := by
  rw [← Option.isSome_iff_exists, get?, Option.isSome_map, List.find?_isSome, names]
  simp

theorem get?_eq_none_iff : s.get? name = none ↔ name ∉ s.names := by
  rw [mem_names_iff, Option.eq_none_iff_forall_ne_some, not_exists]

/-- A name has the value that it is given, and other names keep theirs. -/
theorem get?_set (s : Settings) (name : String) (value : Setting) (other : String) :
    (s.set name value).get? other = if name = other then some value else s.get? other := by
  obtain ⟨entries⟩ := s
  show get? ⟨setIn name value entries⟩ other = _
  induction entries with
  | nil => rw [setIn, get?_cons]
  | cons entry entries ih =>
    rw [setIn, get?_cons]
    by_cases hentry : entry.1 = name
    · rw [if_pos hentry, get?_cons, hentry]
      split <;> rfl
    · rw [if_neg hentry, get?_cons, ih]
      have hone : entry.1 = other → ¬name = other := fun hother hname => hentry (hother.trans hname.symm)
      exact ite_ite_comm _ _ _ _ hone

/-- A name that stands there once is gone when it is taken out, and other names keep their values. -/
theorem get?_erase (h : s.names.Nodup) (name other : String) :
    (s.erase name).get? other = if name = other then none else s.get? other := by
  obtain ⟨entries⟩ := s
  show get? ⟨entries.eraseP fun entry => entry.1 = name⟩ other = _
  induction entries with
  | nil => exact (ite_self none).symm
  | cons entry entries ih =>
    obtain ⟨hnew, hdistinct⟩ := List.nodup_cons.mp h
    rw [get?_cons]
    by_cases hentry : entry.1 = name
    · simp only [List.eraseP_cons, hentry, decide_true, cond_true]
      by_cases hname : name = other
      · rw [if_pos hname, get?_eq_none_iff, ← hname, ← hentry]
        exact hnew
      · rw [if_neg hname, if_neg hname]
    · simp only [List.eraseP_cons, hentry, decide_false, cond_false]
      rw [get?_cons, ih hdistinct]
      have hone : entry.1 = other → ¬name = other := fun hother hname => hentry (hother.trans hname.symm)
      exact ite_ite_comm _ _ _ _ hone

/-- No entry is that of a name that is not there. -/
theorem no_entry (h : name ∉ front.map (·.1)) : ∀ entry ∈ front, ¬decide (entry.1 = name) = true :=
  fun entry hentry hname => h (List.mem_map.mpr ⟨entry, hentry, of_decide_eq_true hname⟩)

/-- A value is replaced where it stands. -/
theorem set_split (hfront : name ∉ front.map (·.1)) :
    set ⟨front ++ (name, old) :: rest⟩ name value = ⟨front ++ (name, value) :: rest⟩ := by
  rw [set, setIn_append hfront, setIn, if_pos rfl]

/-- Nothing but the entry of the name is taken out, and its value is given. -/
theorem remove_split (hfront : name ∉ front.map (·.1)) :
    remove ⟨front ++ (name, old) :: rest⟩ name = (some old, ⟨front ++ rest⟩) := by
  rw [remove_eq, get?, erase, List.find?_append, List.find?_eq_none.mpr (no_entry hfront),
    List.eraseP_append_right _ (no_entry hfront)]
  simp

/-- What is not there cannot be taken out. -/
theorem remove_new (hnew : name ∉ s.names) : s.remove name = (none, s) := by
  rw [remove_eq, get?_eq_none_iff.mpr hnew, erase, List.eraseP_of_forall_not (no_entry hnew)]

/-! ## One more edit -/

variable {edits : List Edit} {edit : Edit} {place : Nat}

theorem lastSet_concat :
    LastSet (edits ++ [edit]) name value ↔
      edit = .set name value ∨ LastSet edits name value ∧ edit.name ≠ name :=
  last_concat

theorem FirstSet.lt_length (h : FirstSet edits name place) : place < edits.length := by
  obtain ⟨before, value, later, rfl, rfl, -⟩ := h
  simp

/-- A name keeps its place until it is taken out, and gets the last place if it is not there. -/
theorem firstSet_concat :
    FirstSet (edits ++ [edit]) name place ↔
      FirstSet edits name place ∧ edit ≠ .remove name ∨
        (∃ value, edit = .set name value) ∧ place = edits.length ∧ ∀ old, ¬LastSet edits name old := by
  constructor
  · rintro ⟨before, value, later, hedits, rfl, hbefore, hlater⟩
    rcases split_concat hedits with ⟨rfl, hedit, -⟩ | ⟨later, rfl, rfl⟩
    · exact .inr ⟨⟨value, hedit⟩, rfl, hbefore⟩
    · rw [List.mem_append, List.mem_singleton, not_or] at hlater
      exact .inl ⟨⟨before, value, later, rfl, rfl, hbefore, hlater.1⟩, Ne.symm hlater.2⟩
  · rintro (⟨⟨before, value, later, rfl, rfl, hbefore, hlater⟩, hedit⟩ | ⟨⟨value, rfl⟩, rfl, hnew⟩)
    · refine ⟨before, value, later ++ [edit], by simp, rfl, hbefore, ?_⟩
      rw [List.mem_append, List.mem_singleton, not_or]
      exact ⟨hlater, Ne.symm hedit⟩
    · exact ⟨edits, value, [], rfl, rfl, hnew, List.not_mem_nil⟩

theorem Edit.ne_remove_iff : edit ≠ .remove name ↔ (∃ value, edit = .set name value) ∨ edit.name ≠ name := by
  cases edit <;> simp [Edit.name, em]

/-- What was last set has been set first. -/
theorem exists_lastSet_iff : (∃ value, LastSet edits name value) ↔ ∃ place, FirstSet edits name place := by
  induction edits using List.reverseRecOn with
  | nil => simp [LastSet, FirstSet]
  | append_singleton edits edit ih =>
    simp only [lastSet_concat, firstSet_concat, exists_or, exists_and_left, exists_and_right, ih,
      Edit.ne_remove_iff, ← not_exists]
    tauto

/-! ## Any number of edits -/

theorem after_concat (edits : List Edit) (edit : Edit) :
    after (edits ++ [edit]) = edit.apply (after edits) :=
  List.foldl_concat ..

/-- However settings came about, they are what is there after some edits. -/
theorem built_iff : s.Built ↔ ∃ edits, after edits = s := by
  constructor
  · intro h
    induction h with
    | empty => exact ⟨[], rfl⟩
    | set _ name value ih =>
      obtain ⟨edits, rfl⟩ := ih
      exact ⟨edits ++ [.set name value], after_concat ..⟩
    | erase _ name ih =>
      obtain ⟨edits, rfl⟩ := ih
      refine ⟨edits ++ [.remove name], ?_⟩
      rw [after_concat, Edit.apply, remove_eq]
  · rintro ⟨edits, rfl⟩
    induction edits using List.reverseRecOn with
    | nil => exact .empty
    | append_singleton edits edit ih =>
      rw [after_concat]
      cases edit with
      | set name value => exact ih.set name value
      | remove name =>
        rw [Edit.apply, remove_eq]
        exact ih.erase name

theorem distinct_after (edits : List Edit) : (after edits).names.Nodup :=
  (built_iff.mpr ⟨edits, rfl⟩).distinct

/-- **A name has the value that the last edit of it gave it**, and none if that took it out. -/
theorem get?_after : (after edits).get? name = some value ↔ LastSet edits name value := by
  induction edits using List.reverseRecOn with
  | nil => simp [after, get?, LastSet]
  | append_singleton edits edit ih =>
    rw [after_concat, lastSet_concat, ← ih]
    cases edit with
    | set given new =>
      rw [Edit.apply, get?_set]
      by_cases hname : given = name <;> simp [hname, Edit.name]
    | remove gone =>
      rw [Edit.apply, remove_eq, get?_erase (distinct_after edits)]
      by_cases hname : gone = name <;> simp [hname, Edit.name]

theorem mem_names_after : name ∈ (after edits).names ↔ ∃ value, LastSet edits name value := by
  simp only [mem_names_iff, get?_after]

/-- A name that is there has its place from before. -/
theorem FirstSet.of_concat (hmem : name ∈ (after edits).names)
    (h : FirstSet (edits ++ [edit]) name place) : FirstSet edits name place := by
  obtain ⟨value, hlast⟩ := mem_names_after.mp hmem
  rcases firstSet_concat.mp h with ⟨hold, -⟩ | ⟨-, -, hnew⟩
  · exact hold
  · exact absurd hlast (hnew value)

/-- **Names are in the order in which they came.** -/
theorem ordered_after (edits : List Edit) :
    (after edits).names.Pairwise fun older newer =>
      ∀ i j, FirstSet edits older i → FirstSet edits newer j → i < j := by
  induction edits using List.reverseRecOn with
  | nil => exact List.Pairwise.nil
  | append_singleton edits edit ih =>
    -- Whatever the edit is, the names that were there before are still in order.
    have hkept : (after edits).names.Pairwise fun older newer =>
        ∀ i j, FirstSet (edits ++ [edit]) older i → FirstSet (edits ++ [edit]) newer j → i < j :=
      ih.imp_of_mem fun holder hnewer hlt i j hi hj => hlt i j (hi.of_concat holder) (hj.of_concat hnewer)
    rw [after_concat]
    cases edit with
    | set name value =>
      rw [Edit.apply, names_set]
      split
      · exact hkept
      · next hnew =>
        refine List.pairwise_append.mpr ⟨hkept, List.pairwise_singleton .., ?_⟩
        intro older holder newer hnewer i j hi hj
        rw [List.mem_singleton.mp hnewer] at hj
        rcases firstSet_concat.mp hj with ⟨hold, -⟩ | ⟨-, rfl, -⟩
        · exact absurd (mem_names_after.mpr (exists_lastSet_iff.mpr ⟨j, hold⟩)) hnew
        · exact (hi.of_concat holder).lt_length
    | remove name =>
      rw [Edit.apply, remove_eq, names_erase]
      exact hkept.sublist List.erase_sublist

/-- **Settings are a map in the order of insertion**, after any edits. Names stand there once. A name
has the value that it was last given, unless it was taken out since. Names are ordered by when they
were first set since they were last taken out. To set a name that is there changes nothing but its
value, and one that is not there comes last; to take a name out gives its value and leaves the others
as they stand. -/
theorem insertion_ordered (edits : List Edit) :
    let s := after edits
    s.names.Nodup ∧
    (∀ name value, s.get? name = some value ↔ LastSet edits name value) ∧
    (∀ name, s.get? name = none ↔ ∀ value, ¬LastSet edits name value) ∧
    (∀ name, name ∈ s.names ↔ ∃ place, FirstSet edits name place) ∧
    (s.names.Pairwise fun older newer =>
      ∀ i j, FirstSet edits older i → FirstSet edits newer j → i < j) ∧
    (∀ front name old rest, s.entries = front ++ (name, old) :: rest →
      (∀ value, s.set name value = ⟨front ++ (name, value) :: rest⟩) ∧
      s.remove name = (some old, ⟨front ++ rest⟩)) ∧
    ∀ name, name ∉ s.names →
      (∀ value, s.set name value = ⟨s.entries ++ [(name, value)]⟩) ∧ s.remove name = (none, s) := by
  intro s
  refine ⟨distinct_after edits, fun name value => get?_after, fun name => ?_,
    fun name => mem_names_after.trans exists_lastSet_iff, ordered_after edits,
    fun front name old rest hentries => ?_, fun name hnew => ⟨fun value => ?_, remove_new hnew⟩⟩
  · rw [get?_eq_none_iff, mem_names_after, not_exists]
  · have hs : s = ⟨front ++ (name, old) :: rest⟩ := congrArg Settings.mk hentries
    have hdistinct := distinct_after edits
    rw [show after edits = _ from hs] at hdistinct
    have hfront := not_mem_front hdistinct
    rw [hs]
    exact ⟨fun value => set_split hfront, remove_split hfront⟩
  · exact congrArg Settings.mk (setIn_new hnew)

/-- One name is set twice, and one is taken out in between and comes last. -/
theorem insertion_ordered_again :
    let edits : List Edit := [.set "a" (.int 1), .set "b" (.text "x"), .set "a" (.bool true),
      .set "c" (.uint 2), .remove "b", .set "b" (.int 3), .remove "d"]
    let s := after edits
    s.entries = [("a", .bool true), ("c", .uint 2), ("b", .int 3)] ∧
      LastSet edits "a" (.bool true) ∧ FirstSet edits "c" 3 ∧ FirstSet edits "b" 5 ∧ 3 < 5 ∧
      s.set "c" (.text "y") = ⟨[("a", .bool true), ("c", .text "y"), ("b", .int 3)]⟩ ∧
      s.remove "c" = (some (.uint 2), ⟨[("a", .bool true), ("b", .int 3)]⟩) ∧
      "d" ∉ s.names ∧ s.remove "d" = (none, s) := by
  intro edits s
  obtain ⟨-, hlast, -, -, hordered, hpresent, habsent⟩ := insertion_ordered edits
  have hentries : s.entries = [("a", .bool true)] ++ ("c", .uint 2) :: [("b", .int 3)] := by decide
  have hnames : s.names = ["a", "c", "b"] := by decide
  have hnew : "d" ∉ s.names := by decide
  have hc : FirstSet edits "c" 3 :=
    ⟨edits.take 3, .uint 2, edits.drop 4, rfl, rfl,
      fun old hold => absurd (mem_names_after.mpr ⟨old, hold⟩) (by decide), by decide⟩
  have hb : FirstSet edits "b" 5 :=
    ⟨edits.take 5, .int 3, edits.drop 6, rfl, rfl,
      fun old hold => absurd (mem_names_after.mpr ⟨old, hold⟩) (by decide), by decide⟩
  have horder : 3 < 5 := by
    rw [show (after edits).names = _ from hnames] at hordered
    exact List.rel_of_pairwise_cons (List.pairwise_cons.mp hordered).2 List.mem_cons_self 3 5 hc hb
  obtain ⟨hset, hremove⟩ := hpresent _ _ _ _ hentries
  exact ⟨hentries, (hlast _ _).mp (by decide), hc, hb, horder, hset _, hremove, hnew, (habsent _ hnew).2⟩

end Settings

end ColumnWire

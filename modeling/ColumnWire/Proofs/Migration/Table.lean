import ColumnWire.Migration.Migrator
import Mathlib.Data.List.Nodup
import Mathlib.Data.List.Perm.Basic

/-!
# The table of migrations

A row of the table records that a migration was applied, or with the opposite sign that it was
undone. Rows are only ever added; a row with a negative sign cancels an earlier one of its name
and group, and those that are not cancelled are live. `WellKept` says how a table looks that
was written by migrators only: no name has two live rows, the groups of the live rows are numbered
from one on without gaps, and the rows of a name come in pairs, with at most one that is not
undone yet. Only of some names (`strays`) there may be rows that undo what was never applied.
-/
namespace ColumnWire

/-- A row of a table of migrations. -/
structure MarkRow where
  name : String
  group : Int64
  second : UInt32
  sign : Int8
deriving Repr, DecidableEq

namespace MarkRow

variable {row next : MarkRow} {rows marks : List MarkRow} {name : String}
  {names strays : List String}

/-- The row that cancels a row. -/
def opposite (row : MarkRow) : MarkRow := { row with sign := -1 }

/-- Whether a row is about the same migration in the same group. -/
def sameKey (row other : MarkRow) : Bool := other.name = row.name && other.group = row.group

/-- The live rows once there is one row more. -/
def collapse (live : List MarkRow) (row : MarkRow) : List MarkRow :=
  if 0 < row.sign then live ++ [row] else live.eraseP row.sameKey

/-- The rows that are not cancelled. -/
def live (marks : List MarkRow) : List MarkRow := marks.foldl collapse []

theorem live_concat (marks : List MarkRow) (row : MarkRow) :
    live (marks ++ [row]) = collapse (live marks) row := by
  simp [live]

theorem live_append (hsign : row.sign = 1) : live (marks ++ [row]) = live marks ++ [row] := by
  rw [live_concat, collapse, hsign]
  rfl

theorem live_cancel : live (marks ++ [row.opposite]) = (live marks).eraseP row.sameKey := by
  rw [live_concat]
  rfl

theorem mem_live_of_cancel (h : next ∈ live (marks ++ [row.opposite])) : next ∈ live marks := by
  rw [live_cancel] at h
  exact List.mem_of_mem_eraseP h

theorem mem_live_cancel (h : next ∈ live marks) (hkey : row.sameKey next = false) :
    next ∈ live (marks ++ [row.opposite]) := by
  rw [live_cancel]
  exact (List.mem_eraseP_of_neg (by simp [hkey])).mpr h

/-- A row that finds no live row of its name cancels nothing. -/
theorem live_stray (hnew : ∀ next ∈ live marks, next.name ≠ row.name) :
    live (marks ++ [row.opposite]) = live marks := by
  rw [live_cancel]
  refine List.eraseP_of_forall_not fun next hnext hkey => ?_
  simp only [sameKey, Bool.and_eq_true, decide_eq_true_eq] at hkey
  exact hnew next hnext hkey.1

/-! ## The rows of one name -/

/-- Rows come in pairs, and the second of a pair cancels the first; the last row may still wait for
its opposite. -/
def Alternates : List MarkRow → Prop
  | [] => True
  | [row] => row.sign = 1
  | row :: next :: rows => row.sign = 1 ∧ next = row.opposite ∧ Alternates rows

/-- The last row if it has no opposite yet. -/
def unpaired? : List MarkRow → Option MarkRow
  | [] => none
  | [row] => some row
  | _ :: _ :: rows => unpaired? rows

theorem Alternates.append (h : Alternates rows) (hpaired : unpaired? rows = none) (hsign : row.sign = 1) :
    Alternates (rows ++ [row]) ∧ unpaired? (rows ++ [row]) = some row := by
  induction rows using unpaired?.induct with
  | case1 => exact ⟨hsign, rfl⟩
  | case2 first => cases hpaired
  | case3 first second rows ih =>
    obtain ⟨hrows, hlast⟩ := ih h.2.2 hpaired
    exact ⟨⟨h.1, h.2.1, hrows⟩, hlast⟩

theorem Alternates.cancel (h : Alternates rows) (hlast : unpaired? rows = some row) :
    Alternates (rows ++ [row.opposite]) ∧ unpaired? (rows ++ [row.opposite]) = none := by
  induction rows using unpaired?.induct with
  | case1 => cases hlast
  | case2 first =>
    cases hlast
    exact ⟨⟨h, rfl, trivial⟩, rfl⟩
  | case3 first second rows ih =>
    obtain ⟨hrows, hnone⟩ := ih h.2.2 hlast
    exact ⟨⟨h.1, h.2.1, hrows⟩, hnone⟩

/-- The rows of a name, oldest first. -/
def ofName (name : String) (rows : List MarkRow) : List MarkRow := rows.filter (·.name = name)

theorem mem_ofName : row ∈ ofName name rows ↔ row ∈ rows ∧ row.name = name := by
  simp [ofName]

theorem ofName_append_self (rows : List MarkRow) (row : MarkRow) :
    ofName row.name (rows ++ [row]) = ofName row.name rows ++ [row] := by
  simp [ofName]

theorem ofName_append_other (rows : List MarkRow) (hname : row.name ≠ name) :
    ofName name (rows ++ [row]) = ofName name rows := by
  simp [ofName, hname]

/-- Erasing a row of another name does not change the rows of a name. -/
theorem ofName_erase_other (rows : List MarkRow) (hname : row.name ≠ name) :
    ofName name (rows.eraseP row.sameKey) = ofName name rows := by
  rcases List.exists_or_eq_self_of_eraseP row.sameKey rows with hsame | ⟨other, before, after, -, hkey, hrows, herased⟩
  · rw [hsame]
  · have hother : other.name ≠ name := by
      simp only [sameKey, Bool.and_eq_true, decide_eq_true_eq] at hkey
      rw [hkey.1]
      exact hname
    rw [herased, hrows]
    simp [ofName, hother]

/-- Erasing the only row of a name leaves none. -/
theorem ofName_erase_self (honly : ofName row.name rows = [row]) :
    ofName row.name (rows.eraseP row.sameKey) = [] := by
  -- Within the rows of the name, being about the same migration includes having that name.
  have hkey : (fun other : MarkRow => row.sameKey other && decide (other.name = row.name)) = row.sameKey := by
    funext other
    simp only [sameKey]
    grind
  rw [ofName, ← hkey, ← List.eraseP_filter, ← ofName, honly]
  simp [sameKey]

/-! ## Groups -/

/-- The groups of the live rows are the numbers from one to `n`. -/
def Numbered (n : Int) (marks : List MarkRow) : Prop :=
  ∀ g : Int, (∃ row ∈ live marks, row.group.toInt = g) ↔ 1 ≤ g ∧ g ≤ n

/-- So they are, together with `g`. -/
def NumberedWith (g : Int) (marks : List MarkRow) : Prop :=
  1 ≤ g ∧ ∀ k : Int, (k = g ∨ ∃ row ∈ live marks, row.group.toInt = k) ↔ 1 ≤ k ∧ k ≤ g

theorem Numbered.succ {n : Nat} (h : Numbered n marks) : NumberedWith (n + 1) marks := by
  refine ⟨by omega, fun k => ?_⟩
  rw [h k]
  omega

/-- The last group, or the first one if there is none yet. -/
theorem Numbered.last {n : Nat} (h : Numbered n marks) : NumberedWith (max n 1) marks := by
  refine ⟨by omega, fun k => ?_⟩
  rw [h k]
  omega

theorem NumberedWith.numbered {g : Int} (h : NumberedWith g marks) : ∃ n : Nat, Numbered n marks := by
  obtain ⟨hg, hall⟩ := h
  -- The group in the making is the last one if a member of it is live, and else the one before is.
  by_cases hlast : ∃ row ∈ live marks, row.group.toInt = g
  · refine ⟨g.toNat, fun k => ?_⟩
    rw [Int.toNat_of_nonneg (by omega), ← hall k]
    exact ⟨.inr, fun hk => hk.elim (fun hk => hk ▸ hlast) id⟩
  · refine ⟨(g - 1).toNat, fun k => ?_⟩
    have hk := hall k
    rw [Int.toNat_of_nonneg (by omega)]
    constructor
    · intro hrow
      have hne : k ≠ g := fun heq => hlast (heq ▸ hrow)
      have := hk.mp (.inr hrow)
      omega
    · intro hrange
      exact (hk.mpr (by omega)).resolve_left (by omega)

theorem NumberedWith.append {g : Int} (h : NumberedWith g marks) (hsign : row.sign = 1)
    (hgroup : row.group.toInt = g) : NumberedWith g (marks ++ [row]) := by
  refine ⟨h.1, fun k => ?_⟩
  rw [← h.2 k, live_append hsign]
  simp only [List.mem_append, List.mem_singleton, or_and_right, exists_or, exists_eq_left, hgroup]
  grind

theorem NumberedWith.stray {g : Int} (h : NumberedWith g marks)
    (hnew : ∀ next ∈ live marks, next.name ≠ row.name) : NumberedWith g (marks ++ [row.opposite]) := by
  rw [NumberedWith, live_stray hnew]
  exact h

theorem NumberedWith.cancel {g : Int} (h : NumberedWith g marks) (hgroup : row.group.toInt = g) :
    NumberedWith g (marks ++ [row.opposite]) := by
  refine ⟨h.1, fun k => ?_⟩
  rw [← h.2 k]
  constructor
  · exact Or.imp_right fun ⟨next, hnext, hk⟩ => ⟨next, mem_live_of_cancel hnext, hk⟩
  · rintro (rfl | ⟨next, hnext, rfl⟩)
    · exact .inl rfl
    · by_cases hkey : row.sameKey next = true
      · simp only [sameKey, Bool.and_eq_true, decide_eq_true_eq] at hkey
        rw [hkey.2]
        exact .inl hgroup
      · exact .inr ⟨next, mem_live_cancel hnext (by simpa using hkey), rfl⟩

/-- There are no more groups than live rows. -/
theorem Numbered.le_length {n : Nat} (h : Numbered n marks) : n ≤ (live marks).length := by
  have hnodup : ((List.range n).map fun i : Nat => (i : Int) + 1).Nodup :=
    List.nodup_range.map fun i j hij => by simp at hij; omega
  have hsubset : ((List.range n).map fun i : Nat => (i : Int) + 1) ⊆
      (live marks).map fun row => row.group.toInt := by
    intro g hg
    obtain ⟨i, hi, rfl⟩ := List.mem_map.mp hg
    have hlt := List.mem_range.mp hi
    exact List.mem_map.mpr ((h _).mpr (by omega))
  simpa using (List.subperm_of_subset hnodup hsubset).length_le

/-! ## A table that is well kept -/

/-- How a table looks that only migrators write. They apply migrations with the given names only. A row
with a negative sign cancels the live row of its name, unless the name is one of the strays: of those
there may be rows that cancel nothing. -/
structure WellKept (names strays : List String) (marks : List MarkRow) : Prop where
  single : ∀ name, (ofName name (live marks)).length ≤ 1
  known : ∀ row ∈ live marks, row.name ∈ names
  numbered : ∃ n : Nat, Numbered n marks
  alternates : ∀ name ∉ strays, Alternates (ofName name marks)
  unpaired : ∀ name ∉ strays, ofName name (live marks) = (unpaired? (ofName name marks)).toList

namespace WellKept

theorem empty (names strays : List String) : WellKept names strays [] where
  single _ := Nat.zero_le _
  known := List.forall_mem_nil _
  numbered := ⟨0, fun g => ⟨fun ⟨_, hrow, _⟩ => absurd hrow List.not_mem_nil, fun hg => by omega⟩⟩
  alternates _ _ := trivial
  unpaired _ _ := rfl

/-- A live row is the only one of its name. -/
theorem ofName_eq (h : WellKept names strays marks) (hrow : row ∈ live marks) :
    ofName row.name (live marks) = [row] := by
  have hmem : row ∈ ofName row.name (live marks) := mem_ofName.mpr ⟨hrow, rfl⟩
  obtain ⟨only, honly⟩ : ∃ only, ofName row.name (live marks) = [only] :=
    List.length_eq_one_iff.mp (Nat.le_antisymm (h.single _) (List.length_pos_of_mem hmem))
  rw [honly] at hmem ⊢
  rw [List.mem_singleton.mp hmem]

theorem eq_of_name (h : WellKept names strays marks) (hrow : row ∈ live marks)
    (hnext : next ∈ live marks) (hname : next.name = row.name) : next = row := by
  have hmem : next ∈ ofName row.name (live marks) := mem_ofName.mpr ⟨hnext, hname⟩
  rw [h.ofName_eq hrow] at hmem
  exact List.mem_singleton.mp hmem

theorem unpaired_eq (h : WellKept names strays marks) (hrow : row ∈ live marks)
    (hname : row.name ∉ strays) : unpaired? (ofName row.name marks) = some row := by
  have hone := h.unpaired row.name hname
  rw [h.ofName_eq hrow] at hone
  cases hlast : unpaired? (ofName row.name marks) with
  | none => simp [hlast] at hone
  | some last => simpa [hlast] using hone.symm

/-- A name that is not live is recorded as applied. -/
theorem append {g : Int} (h : WellKept names strays marks) (hg : NumberedWith g marks)
    (hsign : row.sign = 1) (hknown : row.name ∈ names) (hnew : ∀ next ∈ live marks, next.name ≠ row.name)
    (hgroup : row.group.toInt = g) : WellKept names strays (marks ++ [row]) := by
  have hnone : ofName row.name (live marks) = [] :=
    List.filter_eq_nil_iff.mpr fun next hnext => by simpa using hnew next hnext
  have hrows : row.name ∉ strays → Alternates (ofName row.name marks ++ [row]) ∧
      unpaired? (ofName row.name marks ++ [row]) = some row := by
    intro hname
    refine (h.alternates row.name hname).append ?_ hsign
    simpa [hnone] using (h.unpaired row.name hname).symm
  refine ⟨fun name => ?_, fun next hnext => ?_, (hg.append hsign hgroup).numbered, fun name hname => ?_,
    fun name hname => ?_⟩
  · rw [live_append hsign]
    by_cases hname : row.name = name
    · subst hname
      rw [ofName_append_self, hnone]
      exact Nat.le_refl 1
    · rw [ofName_append_other _ hname]
      exact h.single name
  · rw [live_append hsign] at hnext
    rcases List.mem_append.mp hnext with hold | hone
    · exact h.known next hold
    · rw [List.mem_singleton.mp hone]
      exact hknown
  · by_cases hrow : row.name = name
    · subst hrow
      rw [ofName_append_self]
      exact (hrows hname).1
    · rw [ofName_append_other _ hrow]
      exact h.alternates name hname
  · rw [live_append hsign]
    by_cases hrow : row.name = name
    · subst hrow
      rw [ofName_append_self, ofName_append_self, hnone, (hrows hname).2]
      rfl
    · rw [ofName_append_other _ hrow, ofName_append_other _ hrow]
      exact h.unpaired name hname

/-- A live row is cancelled. -/
theorem cancel {g : Int} (h : WellKept names strays marks) (hg : NumberedWith g marks)
    (hrow : row ∈ live marks) (hgroup : row.group.toInt = g) :
    WellKept names strays (marks ++ [row.opposite]) := by
  have hrows : row.name ∉ strays → Alternates (ofName row.name marks ++ [row.opposite]) ∧
      unpaired? (ofName row.name marks ++ [row.opposite]) = none :=
    fun hname => (h.alternates row.name hname).cancel (h.unpaired_eq hrow hname)
  have hself : ofName row.name (marks ++ [row.opposite]) = ofName row.name marks ++ [row.opposite] :=
    ofName_append_self marks row.opposite
  have hother : ∀ name, row.name ≠ name → ofName name (marks ++ [row.opposite]) = ofName name marks :=
    fun name hname => ofName_append_other marks (show row.opposite.name ≠ name from hname)
  refine ⟨fun name => ?_, fun next hnext => h.known next (mem_live_of_cancel hnext),
    (hg.cancel hgroup).numbered, fun name hname => ?_, fun name hname => ?_⟩
  · rw [live_cancel]
    exact Nat.le_trans ((List.eraseP_sublist.filter _).length_le) (h.single name)
  · by_cases hsame : row.name = name
    · subst hsame
      rw [hself]
      exact (hrows hname).1
    · rw [hother name hsame]
      exact h.alternates name hname
  · rw [live_cancel]
    by_cases hsame : row.name = name
    · subst hsame
      rw [ofName_erase_self (h.ofName_eq hrow), hself, (hrows hname).2]
      rfl
    · rw [ofName_erase_other _ hsame, hother name hsame]
      exact h.unpaired name hname

/-- A row is added that cancels nothing. -/
theorem stray (h : WellKept names strays marks) (hstray : row.name ∈ strays)
    (hnew : ∀ next ∈ live marks, next.name ≠ row.name) :
    WellKept names strays (marks ++ [row.opposite]) := by
  have hlive : live (marks ++ [row.opposite]) = live marks := live_stray hnew
  have hother : ∀ name ∉ strays, ofName name (marks ++ [row.opposite]) = ofName name marks := by
    intro name hname
    have hne : row.opposite.name ≠ name := fun hsame => hname (hsame ▸ hstray)
    exact ofName_append_other marks hne
  obtain ⟨n, hn⟩ := h.numbered
  refine ⟨?_, ?_, ⟨n, ?_⟩, fun name hname => ?_, fun name hname => ?_⟩
  · rw [hlive]
    exact h.single
  · rw [hlive]
    exact h.known
  · rw [Numbered, hlive]
    exact hn
  · rw [hother name hname]
    exact h.alternates name hname
  · rw [hlive, hother name hname]
    exact h.unpaired name hname

/-- No two live rows have one name. -/
theorem nodup_names (h : WellKept names strays marks) : ((live marks).map (·.name)).Nodup := by
  refine List.nodup_iff_count_le_one.mpr fun name => ?_
  rw [List.count_eq_countP, List.countP_map, List.countP_eq_length_filter]
  exact h.single name

/-- There are no more live rows than names. -/
theorem length_live_le (h : WellKept names strays marks) : (live marks).length ≤ names.length := by
  rw [← List.length_map (·.name)]
  refine (List.subperm_of_subset h.nodup_names ?_).length_le
  intro name hname
  obtain ⟨row, hrow, rfl⟩ := List.mem_map.mp hname
  exact h.known row hrow

end WellKept

end MarkRow

end ColumnWire

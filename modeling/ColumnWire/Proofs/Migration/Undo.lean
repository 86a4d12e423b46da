import ColumnWire.Proofs.Migration.History
import ColumnWire.Proofs.Migration.Success

/-!
# Undoing what was applied

A group that is undone right after it was applied leaves no trace among the live rows, whatever
the table held before: rows of names that nobody knows, several rows of one name, or groups with
gaps between them. The new group has a higher number than all others, so it is the last group of
the next status; and the rows of its members are the only live ones of their names, so the status
has just the groups and moments that were recorded (`Migrator.lastGroup_applied`). Only a migration
that is registered with a group as high as the new one, and that the table does not know, gets in
the way (`Migrator.lastGroup_ne_applied`, `Migrator.undone_in_place`).
-/
namespace ColumnWire

open Plan MarkRow

namespace MarkRow

variable {marks added : List MarkRow}

/-- Rows with a positive sign are live behind those that were live before. -/
theorem live_append_all (hsign : ∀ row ∈ added, row.sign = 1) :
    live (marks ++ added) = live marks ++ added := by
  induction added generalizing marks with
  | nil => rw [List.append_nil, List.append_nil]
  | cons row added ih =>
    rw [List.append_cons, ih fun next hnext => hsign next (List.mem_cons_of_mem _ hnext),
      live_append (hsign row List.mem_cons_self), ← List.append_cons]

/-- **Rows that are cancelled in the reverse order leave nothing behind**, if their names are
different and new. -/
theorem live_undo (hsign : ∀ row ∈ added, row.sign = 1) (hdistinct : (added.map (·.name)).Nodup)
    (hnew : ∀ row ∈ added, ∀ next ∈ live marks, next.name ≠ row.name) :
    live (marks ++ added ++ added.reverse.map opposite) = live marks := by
  induction added generalizing marks with
  | nil => rw [List.append_nil, List.reverse_nil, List.map_nil, List.append_nil]
  | cons row added ih =>
    obtain ⟨hother, hdistinct⟩ := List.nodup_cons.mp hdistinct
    have hone := hsign row List.mem_cons_self
    have hlive : live (marks ++ [row]) = live marks ++ [row] := live_append hone
    -- Everything behind the first row is undone before the first row is.
    have hrest : live (marks ++ [row] ++ added ++ added.reverse.map opposite) = live marks ++ [row] := by
      rw [ih (fun next hnext => hsign next (List.mem_cons_of_mem _ hnext)) hdistinct ?_, hlive]
      intro next hnext before hbefore
      rw [hlive] at hbefore
      rcases List.mem_append.mp hbefore with hold | hthis
      · exact hnew next (List.mem_cons_of_mem _ hnext) before hold
      · rw [List.mem_singleton.mp hthis]
        exact fun hname => hother (List.mem_map.mpr ⟨next, hnext, hname.symm⟩)
    have hkey : ∀ next ∈ live marks, row.sameKey next ≠ true := by
      intro next hnext hkey
      simp only [sameKey, Bool.and_eq_true, decide_eq_true_eq] at hkey
      exact hnew row List.mem_cons_self next hnext hkey.1
    rw [List.reverse_cons, List.map_append, ← List.append_assoc, List.append_cons, List.map_singleton,
      live_cancel, hrest, List.eraseP_append_right _ hkey]
    simp [sameKey]

end MarkRow

/-! ## The number of the last group -/

namespace Migrations

variable {us : List Migration}

/-- If some migrations have the highest number, they are the last group. -/
theorem lastGroup_eq {f : Migration → Migration} {p : Migration → Bool} {id : Int64}
    (hid : 1 ≤ id.toInt) (hne : us.filter p ≠ [])
    (hmembers : ∀ u ∈ us.filter p, (f u).group = id)
    (hothers : ∀ u ∈ us, p u = false → (f u).group.toInt < id.toInt) :
    lastGroup (us.map f) = ⟨id, (us.filter p).map f⟩ := by
  have hall : ∀ u ∈ us, (f u).group.toInt ≤ id.toInt ∧ decide ((f u).group = id) = p u := by
    intro u hu
    cases hp : p u with
    | true =>
      have hgroup := hmembers u (List.mem_filter.mpr ⟨hu, hp⟩)
      rw [hgroup]
      exact ⟨Int.le_refl _, decide_eq_true rfl⟩
    | false =>
      have hless := hothers u hu hp
      refine ⟨by omega, decide_eq_false ?_⟩
      rintro rfl
      omega
  have hlast : lastGroupId (us.map f) = id := by
    refine Int64.toInt_inj.mp (lastGroupId_eq (fun v hv => ?_) ?_)
    · obtain ⟨u, hu, rfl⟩ := List.mem_map.mp hv
      exact (hall u hu).1
    · obtain ⟨u, hu⟩ := List.exists_mem_of_ne_nil _ hne
      exact ⟨f u, List.mem_map_of_mem (List.mem_of_mem_filter hu), by rw [hmembers u hu]⟩
  have hnonzero : id ≠ 0 := by
    rintro rfl
    have hzero : (0 : Int64).toInt = 0 := by decide
    omega
  rw [lastGroup, hlast]
  simp only [if_neg hnonzero]
  rw [List.filter_map]
  congr 2
  exact List.filter_congr fun u hu => (hall u hu).2

/-- A migration whose number is not below that of the last group is in it. -/
theorem mem_lastGroup_of_le {u : Migration} (hu : u ∈ us) (hpos : 1 ≤ (lastGroup us).id.toInt)
    (hle : (lastGroup us).id.toInt ≤ u.group.toInt) : u ∈ (lastGroup us).members := by
  have hmax := (lastGroupId_spec (List.ne_nil_of_mem hu)).1 u hu
  unfold lastGroup at hpos hle ⊢
  simp only at hpos hle ⊢
  split at hpos
  · exact absurd hpos (by decide)
  · next hnonzero =>
    rw [if_neg hnonzero] at hle ⊢
    exact List.mem_filter.mpr ⟨hu, decide_eq_true (Int64.toInt_inj.mp (Int.le_antisymm hmax hle))⟩

end Migrations

namespace Migrator

variable {σ : Type} {m : Migrator} {db : Database σ} {rows : σ → List MarkRow} {s s' : σ}
  {calls : List Call} {nop : Bool} {group : MigrationGroup} {marks : List MarkRow}
  {us records records' marked : List Migration} {id : Int64}

/-! ## What is applied, and what is undone -/

/-- What has been done if what was pending was applied, be it nothing. -/
theorem Keeps.succeeds_migrateLocked_pending (hkeeps : m.Keeps db rows)
    (h : Succeeds db (m.migrateLocked nop) s calls group s') :
    ∃ records, records.Perm ((live (rows s)).map record) ∧
      let pending := Migrations.unapplied (m.registry.sorted.map (withRecord records))
      (if pending = [] then group = {} else group.id = Migrations.lastGroupId records + 1) ∧
        List.Forall₂ (Migration.AppliedIn group.id) pending group.members ∧
        calls = .query m.statusSql :: group.members.flatMap (m.callsFor ⟨false, nop⟩) ∧
        rows s' = rows s ++ group.members.map Migration.row := by
  obtain ⟨status, _, _, _, hstatus, hrest, rfl⟩ := h.of_bind
  obtain ⟨rfl, hsame, records, hrecords, rfl⟩ := hkeeps.succeeds_status hstatus
  refine ⟨records, hrecords, ?_⟩
  simp only at hrest ⊢
  split at hrest
  · next hnone =>
    obtain ⟨rfl, rfl, rfl⟩ := hrest.of_pure
    rw [hnone, if_pos rfl, hsame]
    exact ⟨rfl, .nil, rfl, (List.append_nil _).symm⟩
  · next hne =>
    obtain ⟨marked, _, _, _, hall, hreturn, rfl⟩ := hrest.of_bind
    obtain ⟨rfl, rfl, rfl⟩ := hreturn.of_pure
    have hknown : ∀ u ∈ Migrations.unapplied (m.registry.sorted.map (withRecord records)),
        Step.calls u.up ⊆ m.registry.calls :=
      fun u hu => (calls_subset (List.mem_of_mem_filter hu)).1
    obtain ⟨happlied, rfl, hrows⟩ := hkeeps.succeeds_applyAll hknown hall
    rw [if_neg hne]
    refine ⟨rfl, happlied, ?_, ?_⟩
    · rw [List.append_nil]
      rfl
    · rw [hrows, hsame]

/-- What has been done if a group was applied. -/
theorem Keeps.succeeds_migrateLocked (hkeeps : m.Keeps db rows)
    (h : Succeeds db (m.migrateLocked nop) s calls group s') (hgroup : group.isZero = false) :
    ∃ records, records.Perm ((live (rows s)).map record) ∧
      let pending := Migrations.unapplied (m.registry.sorted.map (withRecord records))
      pending ≠ [] ∧ group.id = Migrations.lastGroupId records + 1 ∧
        List.Forall₂ (Migration.AppliedIn group.id) pending group.members ∧
        calls = .query m.statusSql :: group.members.flatMap (m.callsFor ⟨false, nop⟩) ∧
        rows s' = rows s ++ group.members.map Migration.row := by
  obtain ⟨records, hrecords, hid, hrest⟩ := hkeeps.succeeds_migrateLocked_pending h
  refine ⟨records, hrecords, ?_⟩
  by_cases hnone : Migrations.unapplied (m.registry.sorted.map (withRecord records)) = []
  · rw [if_pos hnone] at hid
    rw [hid] at hgroup
    cases hgroup
  · rw [if_neg hnone] at hid
    exact ⟨hnone, hid, hrest⟩

/-- What has been done if a group was undone whose members know their moments. -/
theorem Keeps.succeeds_rollbackLocked (hkeeps : m.Keeps db rows)
    (h : Succeeds db (m.rollbackLocked nop) s calls group s') :
    ∃ records, records.Perm ((live (rows s)).map record) ∧
      group = Migrations.lastGroup (m.registry.sorted.map (withRecord records)) ∧
      ((∀ u ∈ group.members, ∃ moment : UInt32, u.appliedAt = some moment.toNat) →
        calls = .query m.statusSql :: group.members.reverse.flatMap (m.callsFor ⟨true, nop⟩) ∧
          rows s' = rows s ++ group.members.reverse.map fun u => u.row.opposite) := by
  obtain ⟨status, _, _, _, hstatus, hrest, rfl⟩ := h.of_bind
  obtain ⟨rfl, hsame, records, hrecords, rfl⟩ := hkeeps.succeeds_status hstatus
  obtain ⟨_, _, _, _, hundo, hreturn, rfl⟩ := hrest.of_bind
  obtain ⟨rfl, rfl, rfl⟩ := hreturn.of_pure
  refine ⟨records, hrecords, rfl, fun hat => ?_⟩
  have hknown : ∀ u ∈ (Migrations.lastGroup (m.registry.sorted.map (withRecord records))).members.reverse,
      Step.calls u.down ⊆ m.registry.calls := by
    intro u hu
    obtain ⟨members, hsub, hmembers⟩ := lastGroup_members records m.registry.sorted
    rw [List.mem_reverse, hmembers] at hu
    exact (calls_subset ((hsub.map _).subset hu)).2
  obtain ⟨rfl, hrows⟩ := hkeeps.succeeds_undoAll hknown (fun u hu => hat u (List.mem_reverse.mp hu)) hundo
  rw [List.append_nil, hrows, hsame]
  exact ⟨rfl, rfl⟩

/-! ## The status afterwards -/

/-- Live rows have numbers of groups, and there is a number left for another group. -/
def HasRoom (marks : List MarkRow) : Prop :=
  ∀ row ∈ live marks, 1 ≤ row.group.toInt ∧ row.group.toInt < Int64.maxValue.toInt

/-- The number of the new group is above those of all live rows. -/
theorem HasRoom.newGroup (h : HasRoom marks) (hrecords : records.Perm ((live marks).map record)) :
    let id := Migrations.lastGroupId records + 1
    1 ≤ id.toInt ∧ ∀ row ∈ live marks, row.group.toInt < id.toInt := by
  have hlast : 0 ≤ (Migrations.lastGroupId records).toInt ∧
      (Migrations.lastGroupId records).toInt < Int64.maxValue.toInt ∧
      ∀ row ∈ live marks, row.group.toInt ≤ (Migrations.lastGroupId records).toInt := by
    by_cases hne : records = []
    · have hlive : live marks = [] := List.map_eq_nil_iff.mp (hne ▸ hrecords).nil_eq.symm
      rw [hne, hlive]
      exact ⟨by decide, by decide, List.forall_mem_nil _⟩
    · obtain ⟨hall, v, hv, hid⟩ := Migrations.lastGroupId_spec hne
      obtain ⟨row, hrow, rfl⟩ := (mem_records hrecords).mp hv
      obtain ⟨hpos, hsmall⟩ := h row hrow
      have hid' : row.group = Migrations.lastGroupId records := hid
      rw [← hid']
      refine ⟨by omega, hsmall, fun next hnext => ?_⟩
      have hle := hall next.record ((mem_records hrecords).mpr ⟨next, hnext, rfl⟩)
      rwa [← hid'] at hle
  obtain ⟨hnonneg, hsmall, hall⟩ := hlast
  rw [show Int64.maxValue.toInt = 2 ^ 63 - 1 by decide] at hsmall
  have hsucc : (Migrations.lastGroupId records + 1).toInt =
      ((Migrations.lastGroupId records).toInt.toNat : Int) + 1 := toInt_add_one (by omega) (by omega)
  simp only [hsucc]
  refine ⟨by omega, fun row hrow => ?_⟩
  have hle := hall row hrow
  omega

/-- Migrations that are not applied have no live rows, and the status has nothing about them. -/
theorem unapplied_known (h : HasRoom marks) (hrecords : records.Perm ((live marks).map record))
    (us : List Migration) :
    Migrations.unapplied (us.map (withRecord records)) =
        us.filter (fun u => !(withRecord records u).isApplied) ∧
      ∀ u ∈ us.filter (fun u => !(withRecord records u).isApplied),
        ∀ row ∈ live marks, row.name ≠ u.name := by
  have hnew : ∀ u ∈ us.filter (fun u => !(withRecord records u).isApplied),
      ∀ row ∈ live marks, row.name ≠ u.name := by
    intro u hu row hrow hname
    have hunapplied := (List.mem_filter.mp hu).2
    obtain ⟨next, hnext, -, hrecord⟩ := withRecord_recorded hrecords ⟨row, hrow, hname⟩
    have happlied : (withRecord records u).isApplied = true := by
      rw [hrecord, isApplied_iff]
      exact (h next hnext).1
    rw [happlied] at hunapplied
    cases hunapplied
  refine ⟨?_, hnew⟩
  rw [Migrations.unapplied, List.filter_map]
  exact (List.map_congr_left fun u hu => withRecord_new hrecords (hnew u hu)).trans (List.map_id _)

theorem mem_applied {pending : List Migration} {v : Migration}
    (happlied : List.Forall₂ (Migration.AppliedIn id) pending marked) (hv : v ∈ marked) :
    ∃ u ∈ pending, u.AppliedIn id v := by
  induction happlied with
  | nil => cases hv
  | cons hfirst _ ih =>
    rcases List.mem_cons.mp hv with rfl | hv
    · exact ⟨_, List.mem_cons_self, hfirst⟩
    · obtain ⟨u, hu, hrest⟩ := ih hv
      exact ⟨u, List.mem_cons_of_mem _ hu, hrest⟩

theorem names_applied {pending : List Migration}
    (happlied : List.Forall₂ (Migration.AppliedIn id) pending marked) :
    marked.map (·.name) = pending.map (·.name) := by
  induction happlied with
  | nil => rfl
  | cons hfirst _ ih =>
    obtain ⟨moment, rfl⟩ := hfirst
    rw [List.map_cons, List.map_cons, ih]

/-- The rows of a group that was applied are live behind those that were live before. -/
theorem live_applied (marks : List MarkRow) (marked : List Migration) :
    live (marks ++ marked.map Migration.row) = live marks ++ marked.map Migration.row := by
  refine live_append_all fun row hrow => ?_
  obtain ⟨u, -, rfl⟩ := List.mem_map.mp hrow
  rfl

/-- A status that is asked for after a group was applied has the group and the moment of each member. -/
theorem withRecord_applied {pending : List Migration}
    (hnew : ∀ u ∈ pending, ∀ row ∈ live marks, row.name ≠ u.name)
    (hdistinct : (pending.map (·.name)).Nodup)
    (happlied : List.Forall₂ (Migration.AppliedIn id) pending marked)
    (hrecords : records.Perm ((live (marks ++ marked.map Migration.row)).map record)) :
    pending.map (withRecord records) = marked := by
  obtain ⟨hlength, hpairs⟩ := List.forall₂_iff_zip.mp happlied
  have heach : List.Forall₂ (fun u v => withRecord records u = v) pending marked := by
    refine List.forall₂_iff_zip.mpr ⟨hlength, fun {u v} hpair => ?_⟩
    obtain ⟨moment, hv⟩ := hpairs hpair
    obtain ⟨hu, hmem⟩ := List.of_mem_zip hpair
    have hname : v.name = u.name := by rw [hv]
    have hlive : v.row ∈ live (marks ++ marked.map Migration.row) := by
      rw [live_applied]
      exact List.mem_append_right _ (List.mem_map_of_mem hmem)
    obtain ⟨row, hrow, hsame, hrecord⟩ := withRecord_recorded hrecords ⟨v.row, hlive, hname⟩
    -- The only live row of the name is the one that was added.
    have hrow' : row = v.row := by
      rw [live_applied] at hrow
      rcases List.mem_append.mp hrow with hold | hadded
      · exact absurd hsame (hnew u hu row hold)
      · obtain ⟨w, hw, rfl⟩ := List.mem_map.mp hadded
        rw [← names_applied happlied] at hdistinct
        rw [List.inj_on_of_nodup_map hdistinct hw hmem (hsame.trans hname.symm)]
    have hmoment : v.moment = moment := Migration.moment_eq (hv ▸ rfl)
    rw [hrecord, hrow', Migration.row, hmoment, hv]
    rfl
  have hequal := List.forall₂_map_left_iff.mpr heach
  rwa [List.forall₂_eq_eq_eq] at hequal

/-- **The group that was applied is the last one** of the next status, member by member. -/
theorem lastGroup_applied (h : HasRoom marks) (hnames : (us.map (·.name)).Nodup)
    (hrecords : records.Perm ((live marks).map record))
    (hfresh : ∀ u ∈ us, (∀ row ∈ live marks, row.name ≠ u.name) →
      u.group.toInt < (Migrations.lastGroupId records + 1).toInt)
    (hne : Migrations.unapplied (us.map (withRecord records)) ≠ [])
    (happlied : List.Forall₂ (Migration.AppliedIn (Migrations.lastGroupId records + 1))
      (Migrations.unapplied (us.map (withRecord records))) marked)
    (hrecords' : records'.Perm ((live (marks ++ marked.map Migration.row)).map record)) :
    Migrations.lastGroup (us.map (withRecord records')) =
      ⟨Migrations.lastGroupId records + 1, marked⟩ := by
  obtain ⟨hpos, habove⟩ := h.newGroup hrecords
  obtain ⟨hpending, hnew⟩ := unapplied_known h hrecords us
  rw [hpending] at hne happlied
  have hmarked := withRecord_applied hnew (hnames.sublist (List.filter_sublist.map _)) happlied hrecords'
  rw [← hmarked]
  refine Migrations.lastGroup_eq hpos hne (fun u hu => ?_) (fun u hu hold => ?_)
  · have hmem : withRecord records' u ∈ marked := hmarked ▸ List.mem_map_of_mem hu
    obtain ⟨v, -, moment, hv⟩ := mem_applied happlied hmem
    rw [hv]
  · by_cases hlive : ∃ row ∈ live (marks ++ marked.map Migration.row), row.name = u.name
    · obtain ⟨row, hrow, hname, hrecord⟩ := withRecord_recorded hrecords' hlive
      rw [hrecord]
      rw [live_applied] at hrow
      rcases List.mem_append.mp hrow with hbefore | hadded
      · exact habove row hbefore
      -- A migration with the name of a member is that member.
      · obtain ⟨w, hw, rfl⟩ := List.mem_map.mp hadded
        obtain ⟨v, hv, moment, rfl⟩ := mem_applied happlied hw
        obtain ⟨hvus, hvnew⟩ := List.mem_filter.mp hv
        rw [List.inj_on_of_nodup_map hnames hvus hu hname, hold] at hvnew
        cases hvnew
    · have hunknown : ∀ row ∈ live (marks ++ marked.map Migration.row), row.name ≠ u.name :=
        fun row hrow hname => hlive ⟨row, hrow, hname⟩
      rw [withRecord_new hrecords' hunknown]
      refine hfresh u hu fun row hrow => hunknown row ?_
      rw [live_applied]
      exact List.mem_append_left _ hrow

/-- Rows of a group that was applied do not have a name that nobody in the group has. -/
theorem unknown_applied {name : String} (hunknown : ∀ row ∈ live marks, row.name ≠ name)
    (hout : name ∉ marked.map (·.name)) :
    ∀ row ∈ live (marks ++ marked.map Migration.row), row.name ≠ name := by
  rw [live_applied]
  intro row hrow hname
  rcases List.mem_append.mp hrow with hold | hadded
  · exact hunknown row hold hname
  · obtain ⟨w, hw, rfl⟩ := List.mem_map.mp hadded
    exact hout (List.mem_map.mpr ⟨w, hw, hname⟩)

/-- A migration that the table does not know, but that is registered as applied, is not applied. -/
theorem not_mem_applied {u : Migration} (h : HasRoom marks) (hnames : (us.map (·.name)).Nodup)
    (hrecords : records.Perm ((live marks).map record)) (hu : u ∈ us)
    (hunknown : ∀ row ∈ live marks, row.name ≠ u.name) (hclaimed : u.isApplied = true)
    (happlied : List.Forall₂ (Migration.AppliedIn id)
      (Migrations.unapplied (us.map (withRecord records))) marked) :
    u.name ∉ marked.map (·.name) := by
  obtain ⟨hpending, -⟩ := unapplied_known h hrecords us
  rw [hpending] at happlied
  rw [names_applied happlied]
  intro hmem
  obtain ⟨v, hv, hname⟩ := List.mem_map.mp hmem
  obtain ⟨hvus, hvnew⟩ := List.mem_filter.mp hv
  obtain rfl := List.inj_on_of_nodup_map hnames hvus hu hname
  rw [withRecord_new hrecords hunknown, hclaimed] at hvnew
  cases hvnew

/-- A migration that the table does not know, but that is registered with a group as high as the new one,
is in the last group of the next status, or that has a higher number. -/
theorem lastGroup_ne_applied {u : Migration} (h : HasRoom marks) (hnames : (us.map (·.name)).Nodup)
    (hrecords : records.Perm ((live marks).map record)) (hu : u ∈ us)
    (hunknown : ∀ row ∈ live marks, row.name ≠ u.name)
    (hhigh : (Migrations.lastGroupId records + 1).toInt ≤ u.group.toInt)
    (happlied : List.Forall₂ (Migration.AppliedIn (Migrations.lastGroupId records + 1))
      (Migrations.unapplied (us.map (withRecord records))) marked)
    (hrecords' : records'.Perm ((live (marks ++ marked.map Migration.row)).map record))
    (hid : (Migrations.lastGroup (us.map (withRecord records'))).id = Migrations.lastGroupId records + 1) :
    (Migrations.lastGroup (us.map (withRecord records'))).members.map (·.name) ≠ marked.map (·.name) := by
  obtain ⟨hpos, -⟩ := h.newGroup hrecords
  have hclaimed : u.isApplied = true := (isApplied_iff u).mpr (Int.le_trans hpos hhigh)
  have hout := not_mem_applied h hnames hrecords hu hunknown hclaimed happlied
  have hmem : u ∈ us.map (withRecord records') :=
    List.mem_map.mpr ⟨u, hu, withRecord_new hrecords' (unknown_applied hunknown hout)⟩
  rw [← hid] at hpos hhigh
  intro hsame
  exact hout (hsame ▸ List.mem_map_of_mem (Migrations.mem_lastGroup_of_le hmem hpos hhigh))

/-- The opposites of the rows that were added, added in the reverse order, leave what was live before. -/
theorem live_undone (h : HasRoom marks) (hnames : (us.map (·.name)).Nodup)
    (hrecords : records.Perm ((live marks).map record))
    (happlied : List.Forall₂ (Migration.AppliedIn id)
      (Migrations.unapplied (us.map (withRecord records))) marked) :
    live (marks ++ marked.map Migration.row ++ (marked.map Migration.row).reverse.map opposite) =
      live marks := by
  obtain ⟨hpending, hnew⟩ := unapplied_known h hrecords us
  rw [hpending] at happlied
  have hrows : (marked.map Migration.row).map (·.name) =
      (us.filter fun u => !(withRecord records u).isApplied).map (·.name) := by
    rw [← names_applied happlied, List.map_map]
    rfl
  refine live_undo (fun row hrow => ?_) ?_ fun row hrow next hnext => ?_
  · obtain ⟨u, -, rfl⟩ := List.mem_map.mp hrow
    rfl
  · rw [hrows]
    exact hnames.sublist (List.filter_sublist.map _)
  · have hname : row.name ∈ (marked.map Migration.row).map (·.name) := List.mem_map_of_mem hrow
    rw [hrows] at hname
    obtain ⟨u, hu, hname⟩ := List.mem_map.mp hname
    rw [← hname]
    exact hnew u hu next hnext

/-! ## One after the other -/

/-- The migrations that the table does not know are registered in groups below a given one; those that are
registered without a group are. -/
def Below (m : Migrator) (marks : List MarkRow) (id : Int64) : Prop :=
  ∀ u ∈ m.registry.migrations, (∀ row ∈ live marks, row.name ≠ u.name) → u.group < id

/-- **Undoing leaves nothing of what was applied.** The migrations of a registry with different names
are applied to a table with room for another group, whatever else its live rows are, and the last
group is undone next; both succeed. The group that is undone is the one that was applied exactly if
what the table does not know is registered in groups below the new one. If so, the rows that applying
has added are the last ones until undoing adds their opposites in the reverse order, and the live
rows are those that were live before. Between the status and giving the lock back, the one makes the
calls of each member's step and its mark, and the other does so for the members in the reverse order;
with `nop` no step makes a call. -/
theorem rollback_undoes_migrate (m : Migrator) (hnames : m.registry.names.Nodup) (db : Database σ)
    (rows : σ → List MarkRow) (hkeeps : m.Keeps db rows) (s s₁ s₂ : σ) (hroom : HasRoom (rows s))
    (nop nop' : Bool) (group group' : MigrationGroup)
    (hmigrate : (m.migrate nop).run.run db s = (.ok group, s₁)) (hgroup : group.isZero = false)
    (hrollback : (m.rollback nop').run.run db s₁ = (.ok group', s₂)) :
    (m.Below (rows s) group.id ↔
        group'.id = group.id ∧ group'.members.map (·.name) = group.members.map (·.name)) ∧
      (m.Below (rows s) group.id →
        let added := group.members.map Migration.row
        group' = group ∧ (∀ u ∈ group.members, u.group = group.id ∧
            ∃ v ∈ m.registry.migrations, v.name = u.name ∧ v.up = u.up ∧ v.down = u.down) ∧
          rows s₁ = rows s ++ added ∧ rows s₂ = rows s₁ ++ added.reverse.map opposite ∧
          live (rows s₂) = live (rows s) ∧
          (m.migrate nop).run.trace db s = .exec m.lockSql :: .query m.statusSql ::
            group.members.flatMap (m.callsFor ⟨false, nop⟩) ++ [.exec m.unlockSql] ∧
          (m.rollback nop').run.trace db s₁ = .exec m.lockSql :: .query m.statusSql ::
            group.members.reverse.flatMap (m.callsFor ⟨true, nop'⟩) ++ [.exec m.unlockSql]) := by
  have hnames' : (m.registry.sorted.map (·.name)).Nodup :=
    (m.registry.sorted_perm.map _).nodup_iff.mpr hnames
  -- What was applied.
  obtain ⟨a, b, _, hlock, hbody, hunlock, hcalls⟩ := hkeeps.succeeds_locked ⟨hmigrate, rfl⟩
  obtain ⟨records, hrecords, hne, hid, happlied, rfl, hrows⟩ := hkeeps.succeeds_migrateLocked hbody hgroup
  rw [hlock] at hrecords hrows
  have hadded : rows s₁ = rows s ++ group.members.map Migration.row := hunlock.trans hrows
  -- What was undone.
  obtain ⟨a', b', _, hlock', hbody', hunlock', hcalls'⟩ := hkeeps.succeeds_locked ⟨hrollback, rfl⟩
  obtain ⟨records', hrecords', hlast, hundo⟩ := hkeeps.succeeds_rollbackLocked hbody'
  rw [hlock', hadded] at hrecords'
  rw [hid] at happlied
  have hsame : m.Below (rows s) group.id → group' = group := by
    intro hbelow
    rw [hid] at hbelow
    rw [hlast, lastGroup_applied hroom hnames' hrecords ?_ hne happlied hrecords', ← hid]
    intro u hu hunknown
    exact Int64.lt_iff_toInt_lt.mp (hbelow u (m.registry.sorted_perm.mem_iff.mp hu) hunknown)
  refine ⟨⟨fun hbelow => ?_, fun ⟨hsameId, hsameNames⟩ u hu hunknown => ?_⟩, fun hbelow => ?_⟩
  · rw [hsame hbelow]
    exact ⟨rfl, rfl⟩
  · rw [hlast] at hsameId hsameNames
    rw [hid] at hsameId ⊢
    by_contra hhigh
    rw [Int64.lt_iff_toInt_lt, Int.not_lt] at hhigh
    exact lastGroup_ne_applied hroom hnames' hrecords (m.registry.sorted_perm.mem_iff.mpr hu) hunknown
      hhigh happlied hrecords' hsameId hsameNames
  · obtain rfl := hsame hbelow
    have hmember : ∀ u ∈ group'.members, ∃ v ∈ Migrations.unapplied
        (m.registry.sorted.map (withRecord records)), v.AppliedIn group'.id u := by
      rw [hid]
      exact fun u hu => mem_applied happlied hu
    obtain ⟨rfl, hrows'⟩ := hundo fun u hu => by
      obtain ⟨v, -, moment, rfl⟩ := hmember u hu
      exact ⟨moment, rfl⟩
    have hopposite : rows s₂ =
        rows s₁ ++ (group'.members.map Migration.row).reverse.map opposite := by
      rw [hunlock', hrows', hlock', ← List.map_reverse, List.map_map]
      rfl
    refine ⟨rfl, fun u hu => ?_, hadded, hopposite, ?_, hcalls, hcalls'⟩
    · obtain ⟨v, hv, moment, rfl⟩ := hmember u hu
      obtain ⟨w, hw, rfl⟩ := List.mem_map.mp (List.mem_of_mem_filter hv)
      exact ⟨rfl, w, m.registry.sorted_perm.mem_iff.mp hw, by simp⟩
    · rw [hopposite, hadded]
      exact live_undone hroom hnames' hrecords happlied

/-- Nothing is registered for the row that is there before, and its group is not the first one. -/
theorem rollback_undoes_migrate_brittle :
    let db := brittle.memory
    let s : Memory := { marks := [⟨"0_old", 4, 7, 1⟩] }
    let s₁ : Memory := { marks := s.marks ++ [⟨"1_orders", 5, 0, 1⟩, ⟨"2_filling", 5, 0, 1⟩] }
    let s₂ : Memory := { marks := s₁.marks ++ [⟨"2_filling", 5, 0, -1⟩, ⟨"1_orders", 5, 0, -1⟩] }
    let group : MigrationGroup := ⟨5, brittle.registry.migrations.map fun u =>
      { u with group := 5, appliedAt := some 0 }⟩
    brittle.registry.names.Nodup ∧ brittle.Keeps db Memory.marks ∧ HasRoom s.marks ∧
      (brittle.migrate false).run.run db s = (.ok group, s₁) ∧ group.isZero = false ∧
      brittle.Below s.marks group.id ∧
      (brittle.rollback false).run.run db s₁ = (.ok group, s₂) ∧ live s₂.marks = live s.marks := by
  intro db s s₁ s₂ group
  have hkeeps : brittle.Keeps db Memory.marks := memory_keeps _
  have hroom : HasRoom s.marks := by
    unfold HasRoom
    decide
  have hmigrate : (brittle.migrate false).run.run db s = (.ok group, s₁) := by
    simp only [migrate, migrateLocked, status, brittle, Registry.brittle_sorted]
    decide +kernel
  have hrollback : (brittle.rollback false).run.run db s₁ = (.ok group, s₂) := by
    simp only [rollback, rollbackLocked, status, brittle, Registry.brittle_sorted]
    decide +kernel
  have hgroup : ∀ u ∈ brittle.registry.migrations, u.group < group.id := by decide
  have hbelow : brittle.Below s.marks group.id := fun u hu _ => hgroup u hu
  obtain ⟨-, hundone⟩ := rollback_undoes_migrate brittle (by decide) db Memory.marks hkeeps
    s s₁ s₂ hroom false false group group hmigrate rfl hrollback
  obtain ⟨-, -, -, -, hlive, -⟩ := hundone hbelow
  exact ⟨by decide, hkeeps, hroom, hmigrate, rfl, hbelow, hrollback, hlive⟩

/-- **A group that nobody applied is undone** in place of the one that was applied: the first migration is
registered with a group, so it is not applied, and its group is above the new one. -/
theorem undone_in_place :
    let db := preset.memory
    let s₁ : Memory := { marks := [⟨"002_b", 1, 0, 1⟩] }
    let s₂ : Memory := { marks := [⟨"002_b", 1, 0, 1⟩, ⟨"001_a", 5, 0, -1⟩] }
    preset.registry.names.Nodup ∧ preset.Keeps db Memory.marks ∧ HasRoom [] ∧
      (preset.migrate false).run.run db {} =
        (.ok ⟨1, [{ name := "002_b", group := 1, appliedAt := some 0 }]⟩, s₁) ∧
      (preset.rollback false).run.run db s₁ = (.ok ⟨5, [{ name := "001_a", group := 5 }]⟩, s₂) ∧
      live s₂.marks = [⟨"002_b", 1, 0, 1⟩] := by
  refine ⟨by decide, memory_keeps _, List.forall_mem_nil _, ?_, ?_, by decide⟩
  · simp only [migrate, migrateLocked, status, preset, Registry.preset_sorted]
    decide +kernel
  · simp only [rollback, rollbackLocked, status, preset, Registry.preset_sorted]
    decide +kernel

end Migrator

end ColumnWire

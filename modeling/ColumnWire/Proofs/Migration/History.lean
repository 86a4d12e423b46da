import ColumnWire.Proofs.Migration.Memory

/-!
# The table stays well kept

Whatever migrators are told to do one after another, and whatever fails on the way, the table is
well kept at every moment. While migrations are applied or undone one group is in the making:
its number may be missing among the live rows, and all others are there (`NumberedWith`). A
migration that is registered with a group counts as applied before it ever was, and may be undone
then (`Migrator.undone_unapplied`); of its name only the live rows are kept well.
-/
namespace ColumnWire

open Plan MarkRow

variable {α σ : Type} {names strays : List String} {marks : List MarkRow}
  {u : Migration} {rest : List Migration} {g : Int}

/-- How things are when so many migrations are still to be applied as members of a group. -/
structure Applying (names strays : List String) (g : Int) (rest : List Migration)
    (marks : List MarkRow) : Prop where
  kept : WellKept names strays marks
  numbered : NumberedWith g marks
  known : ∀ u ∈ rest, u.name ∈ names
  fresh : ∀ u ∈ rest, ∀ row ∈ live marks, row.name ≠ u.name
  distinct : (rest.map (·.name)).Nodup

/-- How things are when so many members of a group are still to be undone. They are live in that group, or
they are strays of which nothing is live. -/
structure Undoing (names strays : List String) (g : Int) (rest : List Migration)
    (marks : List MarkRow) : Prop where
  kept : WellKept names strays marks
  numbered : NumberedWith g marks
  applied : ∀ u ∈ rest, (u.name ∈ strays ∧ ∀ row ∈ live marks, row.name ≠ u.name) ∨
    ∃ row ∈ live marks, row.name = u.name ∧ row.group = u.group ∧ row.group.toInt = g ∧
      u.appliedAt = some row.second.toNat
  distinct : (rest.map (·.name)).Nodup

theorem Applying.next (h : Applying names strays g (u :: rest) marks) {group : Int64}
    (hgroup : group.toInt = g) (second : UInt32) :
    Applying names strays g rest (marks ++ [{ u with group }.markRow second 1]) := by
  obtain ⟨hnew, hdistinct⟩ := List.nodup_cons.mp h.distinct
  refine ⟨?_, h.numbered.append rfl hgroup, fun v hv => h.known v (List.mem_cons_of_mem _ hv), ?_,
    hdistinct⟩
  · exact h.kept.append h.numbered rfl (h.known u List.mem_cons_self) (h.fresh u List.mem_cons_self)
      hgroup
  · intro v hv row hrow
    rw [live_append rfl] at hrow
    rcases List.mem_append.mp hrow with hold | hone
    · exact h.fresh v (List.mem_cons_of_mem _ hv) row hold
    · rw [List.mem_singleton.mp hone]
      rintro hname
      exact hnew (List.mem_map.mpr ⟨v, hv, hname.symm⟩)

/-- The rest is as before once a row of the first member has been added. -/
theorem Undoing.behind {row : MarkRow} (h : Undoing names strays g (u :: rest) marks)
    (hname : row.name = u.name) (hkept : WellKept names strays (marks ++ [row.opposite]))
    (hnumbered : NumberedWith g (marks ++ [row.opposite])) :
    Undoing names strays g rest (marks ++ [row.opposite]) := by
  obtain ⟨hnew, hdistinct⟩ := List.nodup_cons.mp h.distinct
  refine ⟨hkept, hnumbered, fun v hv => ?_, hdistinct⟩
  refine (h.applied v (List.mem_cons_of_mem _ hv)).imp ?_ ?_
  · rintro ⟨hstray, hnone⟩
    exact ⟨hstray, fun next hnext => hnone next (mem_live_of_cancel hnext)⟩
  · rintro ⟨next, hnext, hnextName, hrest⟩
    refine ⟨next, mem_live_cancel hnext ?_, hnextName, hrest⟩
    have hne : next.name ≠ row.name := by
      rw [hnextName, hname]
      exact fun heq => hnew (List.mem_map.mpr ⟨v, hv, heq⟩)
    simp [sameKey, hne]

/-- The row that marks a migration as undone is the opposite of its live row, if it has one. -/
theorem Undoing.next (h : Undoing names strays g (u :: rest) marks) {second : UInt32}
    (hsecond : ∀ moment : UInt32, u.appliedAt = some moment.toNat → second = moment) :
    Undoing names strays g rest (marks ++ [u.markRow second (-1)]) := by
  rcases h.applied u List.mem_cons_self with ⟨hstray, hnone⟩ | ⟨row, hrow, hname, hgroup, hg, hat⟩
  · have hopposite : u.markRow second (-1) = (u.markRow second 1).opposite := rfl
    rw [hopposite]
    exact h.behind rfl (h.kept.stray hstray hnone) (h.numbered.stray hnone)
  · have hopposite : u.markRow second (-1) = row.opposite := by
      rw [hsecond row.second hat, Migration.markRow, ← hname, ← hgroup]
      rfl
    rw [hopposite]
    exact h.behind hname (h.kept.cancel h.numbered hrow hg) (h.numbered.cancel hg)

namespace Migrator

variable {m : Migrator} {nop : Bool} {K : List MarkRow → Prop}

/-- The table is well kept at every call and in the end, and it is as `K` says if nothing fails. -/
abbrev KeepsWell (m : Migrator) (names strays : List String) (K : List MarkRow → Prop) (x : Attempt α)
    (marks : List MarkRow) : Prop :=
  MeetsEither m.recording (fun _ => WellKept names strays) (fun _ => K)
    (fun _ => WellKept names strays) x marks

/-! ## One migration -/

theorem kept_runStep {step : Option Step} (h : WellKept names strays marks) :
    Meets m.recording (fun _ => WellKept names strays) (fun _ marks' => marks' = marks)
      (runStep step).run marks := by
  refine (meets_runStep (K := fun _ marks' => marks' = marks) ?_ rfl).mono
    fun _ _ ⟨_, _, hsame⟩ => hsame
  rintro made call marks' hmade rfl
  refine ⟨h, fun answer marks'' hrecording => ?_⟩
  exact (recording_step (hmade.subset (by simp)) answer _ _).mp hrecording

theorem kept_perform {name : String} {step : Option Step} {mark : Attempt α}
    (h : WellKept names strays marks) (hK : ∀ marks, K marks → WellKept names strays marks)
    (hmark : m.KeepsWell names strays K mark marks) :
    m.KeepsWell names strays K (m.perform name step mark) marks := by
  refine meets_perform (kept_runStep h) ?_ ?_ fun _ _ marks' hdone => hK marks' hdone
  · rintro _ rfl
    exact hmark
  · rintro _ _ rfl
    exact h

theorem kept_markApplied {group : Int64} (h : Applying names strays g (u :: rest) marks)
    (hgroup : group.toInt = g) :
    m.KeepsWell names strays (Applying names strays g rest) (m.markApplied { u with group }) marks := by
  refine meets_markApplied (fun second _ _ => ⟨h.kept, ?_, ?_⟩) fun _ => h.kept
  · intro marks' hrecording
    rw [hrecording rfl _ (carries_markBlock _ _ _)]
    exact h.next hgroup _
  · rintro e _ rfl
    exact h.kept

theorem kept_markUnapplied (h : Undoing names strays g (u :: rest) marks) :
    m.KeepsWell names strays (Undoing names strays g rest) (m.markUnapplied u) marks := by
  refine meets_markUnapplied (fun second hknown _ _ => ⟨h.kept, ?_, ?_⟩) fun _ => h.kept
  · intro marks' hrecording
    rw [hrecording rfl _ (carries_markBlock _ _ _)]
    refine h.next fun moment hat => ?_
    rw [hknown _ hat, Int.toNat_natCast, UInt32.ofNat_toNat]
  · rintro e _ rfl
    exact h.kept

/-! ## All of them -/

theorem kept_applyAll {group : Int64} (h : Applying names strays g rest marks)
    (hgroup : group.toInt = g) :
    m.KeepsWell names strays (WellKept names strays) (m.applyAll nop group rest) marks := by
  refine (meets_applyAll (K := Applying names strays g) ?_ h).mono (fun _ _ h => h.kept) fun _ _ h => h
  intro u us marks h
  exact kept_perform h.kept (fun _ h => h.kept) (kept_markApplied h hgroup)

theorem kept_undoAll (h : Undoing names strays g rest marks) :
    m.KeepsWell names strays (WellKept names strays) (m.undoAll nop rest) marks := by
  refine (meets_undoAll (K := Undoing names strays g) ?_ h).mono (fun _ _ h => h.kept) fun _ _ h => h
  intro u us marks h
  exact kept_perform h.kept (fun _ h => h.kept) (kept_markUnapplied h)

/-! ## Under the lock -/

theorem kept_status (h : WellKept names strays marks) :
    MeetsEither m.recording (fun _ => WellKept names strays)
      (fun status marks' => marks' = marks ∧ ∃ records, records.Perm ((live marks).map record) ∧
        status = (m.registry.sorted.map (withRecord records), Migrations.lastGroupId records))
      (fun _ => WellKept names strays) m.status marks := by
  have hread : ∀ blocks marks', m.recording (.query m.statusSql) (.ok blocks) marks marks' →
      marks' = marks ∧ ∃ records, records.Perm ((live marks).map record) ∧
        readAll blocks = .ok records := by
    intro blocks marks' hrecording
    obtain ⟨hsame, parts, hshows, hperm⟩ := hrecording rfl
    exact ⟨hsame, _, hperm.map record, readAll_eq hshows⟩
  refine meets_status h ?_ ?_ ?_
  · intro blocks records marks' hrecording hrecords
    obtain ⟨hsame, records', hperm, hread'⟩ := hread blocks marks' hrecording
    obtain rfl := Except.ok.inj (hrecords.symm.trans hread')
    exact ⟨hsame, records, hperm, rfl⟩
  · intro blocks fault marks' hrecording hfault
    obtain ⟨-, records', -, hread'⟩ := hread blocks marks' hrecording
    cases hfault.symm.trans hread'
  · rintro e _ rfl
    exact h

/-- The number of a new group is the next one. -/
theorem toInt_add_one {last : Int64} {n : Nat} (hlast : last.toInt = n) (hn : n < 2 ^ 63 - 1) :
    (last + 1).toInt = n + 1 := by
  have hone : (1 : Int64).toInt = 1 := by decide
  rw [Int64.toInt_add, hone, hlast, Int.bmod_def]
  omega

variable (m) in
/-- The table is well kept by a migrator that knows its registry. -/
abbrev TableKept : List MarkRow → Prop := WellKept m.registry.openNames m.registry.claimed

theorem kept_migrateLocked (hr : m.registry.Distinct) (h : m.TableKept marks) :
    m.KeepsWell m.registry.openNames m.registry.claimed m.TableKept (m.migrateLocked nop) marks := by
  refine (kept_status h).bind ?_
  rintro ⟨known, last⟩ marks ⟨rfl, records, hrecords, hstatus⟩
  obtain ⟨rfl, rfl⟩ := Prod.mk.inj hstatus
  obtain ⟨n, hn⟩ := h.numbered
  -- There are no more groups than live rows, and no more live rows than names.
  have hsmall : n < 2 ^ 63 - 1 := by
    have hle := Nat.le_trans hn.le_length h.length_live_le
    rw [Registry.openNames, List.length_map] at hle
    exact Nat.lt_of_le_of_lt (Nat.le_trans hle (List.length_filter_le _ _)) hr.countable
  have hgroup := toInt_add_one (lastGroupId_records hn hrecords) hsmall
  have hnew : ∀ u ∈ Migrations.unapplied (m.registry.sorted.map (withRecord records)),
      u.name ∈ m.registry.openNames ∧ ∀ row ∈ live marks, row.name ≠ u.name := by
    intro u hu
    obtain ⟨hmem, hunapplied⟩ := List.mem_filter.mp hu
    rcases mem_known h hrecords hmem with ⟨hregistered, hnone⟩ | ⟨row, hrow, -, hrowGroup, -⟩
    · exact ⟨List.mem_map_of_mem (List.mem_filter.mpr ⟨hregistered, hunapplied⟩), hnone⟩
    -- A live row has a group from one on, so the migration would count as applied.
    · have hpos := ((hn _).mp ⟨row, hrow, rfl⟩).1
      rw [hrowGroup, ← isApplied_iff] at hpos
      simp [hpos] at hunapplied
  have hpending : Applying m.registry.openNames m.registry.claimed (n + 1)
      (Migrations.unapplied (m.registry.sorted.map (withRecord records))) marks :=
    ⟨h, hn.succ, fun u hu => (hnew u hu).1, fun u hu => (hnew u hu).2,
      (nodup_known hr records).sublist (List.filter_sublist.map _)⟩
  simp only
  split
  · exact .pure h
  · exact (kept_applyAll hpending hgroup).bind fun _ _ h => .pure h

theorem kept_rollbackLocked (hr : m.registry.Distinct) (h : m.TableKept marks) :
    m.KeepsWell m.registry.openNames m.registry.claimed m.TableKept (m.rollbackLocked nop) marks := by
  refine (kept_status h).bind ?_
  rintro ⟨known, last⟩ marks ⟨rfl, records, hrecords, hstatus⟩
  obtain ⟨rfl, rfl⟩ := Prod.mk.inj hstatus
  obtain ⟨n, hn⟩ := h.numbered
  refine (kept_undoAll (g := max n 1) ⟨h, hn.last, fun u hu => ?_, ?_⟩).bind fun _ _ h => .pure h
  · refine (mem_lastGroup_known hr h hn hrecords (List.mem_reverse.mp hu)).imp_right ?_
    rintro ⟨row, hrow, hname, hgroup, hlast, hat⟩
    have hpos := ((hn _).mp ⟨row, hrow, rfl⟩).1
    exact ⟨row, hrow, hname, hgroup, by omega, hat⟩
  · rw [List.map_reverse, List.nodup_reverse]
    obtain ⟨members, hsub, hmembers⟩ := lastGroup_members records m.registry.sorted
    rw [hmembers]
    exact (nodup_known hr records).sublist ((hsub.map _).map _)

/-- Under the lock a table that is well kept stays so. -/
theorem kept_work (o : Order) (hr : m.registry.Distinct) (h : m.TableKept marks) :
    Meets m.recording (fun call marks => m.Deed call ∧ m.TableKept marks)
      (fun _ marks => m.TableKept marks) (m.work o).run marks := by
  have hkept : m.KeepsWell m.registry.openNames m.registry.claimed m.TableKept (m.work o) marks := by
    obtain ⟨undo, nop⟩ := o
    cases undo with
    | false => exact kept_migrateLocked hr h
    | true => exact kept_rollbackLocked hr h
  refine ((deeds_work m o m.recording marks).and hkept).mono ?_
  rintro (e | a) marks ⟨-, hend⟩ <;> exact hend

/-! ## One order after another -/

section
variable {db : Database σ} {rows : σ → List MarkRow}

/-- An order that is carried out leaves the table well kept, however it ends. -/
theorem kept_carryOut (hkeeps : m.Keeps db rows) (hr : m.registry.Distinct) (o : Order) {s : σ}
    (h : m.TableKept (rows s)) : m.TableKept (rows ((m.carryOut o).run.run db s).2) := by
  rw [carryOut_eq]
  by_cases hne : m.registry.migrations = []
  · rw [locked_of_empty hne]
    exact h
  · rw [locked_of_ne hne, Plan.run]
    have hlock := hkeeps.locking m.lockSql (by simp) s
    rcases hanswer : db.answer (.exec m.lockSql) s with ⟨answer, s'⟩
    rw [hanswer] at hlock
    rw [← hlock] at h
    cases answer with
    | error e => exact h
    | ok a =>
      have hwork := (kept_work o hr h).run fun call s hdeed => hkeeps.recording hdeed.1 s
      simp only [run_bind, release, Plan.run]
      rw [hkeeps.locking m.unlockSql (by simp)]
      exact hwork

/-- How things are after a history of orders, each carried out with its own choice of whether only
success counts. -/
def afterAll (m : Migrator) (db : Database σ) (history : List (Bool × Order)) (s : σ) : σ :=
  history.foldl (fun s (applyOnSuccess, o) =>
    (({ m with applyOnSuccess }.carryOut o).run.run db s).2) s

theorem kept_afterAll (hkeeps : m.Keeps db rows) (hr : m.registry.Distinct)
    (history : List (Bool × Order)) {s : σ} (h : m.TableKept (rows s)) :
    m.TableKept (rows (m.afterAll db history s)) := by
  induction history generalizing s with
  | nil => exact h
  | cons first history ih =>
    obtain ⟨applyOnSuccess, o⟩ := first
    have hkeeps' : Keeps { m with applyOnSuccess } db rows :=
      ⟨hkeeps.failed, hkeeps.inserted, hkeeps.shown, hkeeps.locking, hkeeps.steps⟩
    exact ih (kept_carryOut hkeeps' hr o h)

/-- **The history of a table.** Migrations with different names are applied and undone one order after
another, from an empty table on; the database may fail at any call, and so may steps. Then no name
has more than one live row, and the groups of the live rows are exactly the numbers from one to some
`n`. For every name but those that are registered in a last group of their own the rows come in pairs
of a row and its opposite, with at most one row behind them that has none; so it is for all names if
all migrations are registered without a group. -/
theorem table_history (m : Migrator) (hr : m.registry.Distinct) (db : Database σ)
    (rows : σ → List MarkRow) (hkeeps : m.Keeps db rows) (s : σ) (hempty : rows s = [])
    (history : List (Bool × Order)) :
    let marks := rows (m.afterAll db history s)
    (∀ name, (ofName name (live marks)).length ≤ 1) ∧
      (∃ n : Nat, ∀ g : Int, (∃ row ∈ live marks, row.group.toInt = g) ↔ 1 ≤ g ∧ g ≤ n) ∧
      (∀ name ∉ m.registry.claimed, Alternates (ofName name marks)) ∧
      ((∀ u ∈ m.registry.migrations, u.group = 0) → ∀ name, Alternates (ofName name marks)) := by
  have h : m.TableKept (rows (m.afterAll db history s)) :=
    kept_afterAll hkeeps hr history (hempty ▸ .empty _ _)
  refine ⟨h.single, h.numbered, h.alternates, fun hnone name => h.alternates name ?_⟩
  rw [Registry.claimed_eq_nil hnone]
  exact List.not_mem_nil

/-- Applied twice, of which the first time only success counts, and undone, in memory. -/
theorem table_history_brittle :
    let db := brittle.memory.failing fun call => if call = .custom "fill" then some .poolClosed else none
    let history := [(true, ⟨false, false⟩), (false, ⟨false, false⟩), (false, ⟨true, false⟩)]
    let marks := (brittle.afterAll db history {}).marks
    brittle.registry.Distinct ∧ brittle.Keeps db Memory.marks ∧
      (∀ u ∈ brittle.registry.migrations, u.group = 0) ∧
      (∀ name, (ofName name (live marks)).length ≤ 1) ∧
      (∃ n : Nat, ∀ g : Int, (∃ row ∈ live marks, row.group.toInt = g) ↔ 1 ≤ g ∧ g ≤ n) ∧
      ∀ name, Alternates (ofName name marks) := by
  intro db history marks
  have hkeeps : brittle.Keeps db Memory.marks := (memory_keeps _).failing _
  have hnone : ∀ u ∈ brittle.registry.migrations, u.group = 0 := by decide
  obtain ⟨hsingle, hnumbered, -, halternates⟩ :=
    table_history brittle Registry.brittle_distinct db Memory.marks hkeeps {} rfl history
  exact ⟨Registry.brittle_distinct, hkeeps, hnone, hsingle, hnumbered, halternates hnone⟩

/-- **A migration that is registered with a group is undone without having been applied**, in a table
that is empty: its first row has a negative sign. -/
theorem undone_unapplied :
    preset.registry.Distinct ∧ preset.Keeps preset.memory Memory.marks ∧
      (preset.afterAll preset.memory [(false, ⟨true, false⟩)] {}).marks = [⟨"001_a", 5, 0, -1⟩] ∧
      ¬Alternates (ofName "001_a" (preset.afterAll preset.memory [(false, ⟨true, false⟩)] {}).marks) := by
  have hmarks : (preset.afterAll preset.memory [(false, ⟨true, false⟩)] {}).marks =
      [⟨"001_a", 5, 0, -1⟩] := by
    simp only [afterAll, List.foldl_cons, List.foldl_nil, carryOut, rollback, rollbackLocked, status,
      preset, Registry.preset_sorted]
    decide +kernel
  refine ⟨Registry.preset_distinct, memory_keeps _, hmarks, ?_⟩
  rw [hmarks]
  exact fun h => absurd (show (-1 : Int8) = 1 from h) (by decide)

end

end Migrator

end ColumnWire

import ColumnWire.Proofs.Migration.Course
import ColumnWire.Proofs.Migration.Undo

/-!
# How far migrations are applied

A migrator applies the migrations that have no live row (`Registry.Pending`), in the order of their
names and as one group behind the newest of the whole table (`MarkRow.newest`), whatever of that is
registered. It passes over a migration that is registered with a group, as if that was applied
(`Migrator.passed_over`). `Migrator.migrate_prefix` says what a run does whose calls may fail anywhere: those that it
gets through form a prefix, each with its step and then its mark; the next one breaks or there is none;
and of those behind nothing is run or marked.
-/
namespace ColumnWire

open Plan MarkRow

/-- The migrations of a registry that are to be applied to a table: those without a live row that are not
registered as applied, in the order of their names. -/
structure Registry.Pending (r : Registry) (marks : List MarkRow) (pending : List Migration) : Prop where
  ascending : (pending.map (·.name)).Pairwise (· < ·)
  mem_iff : ∀ u, u ∈ pending ↔
    u ∈ r.migrations ∧ u.isApplied = false ∧ ∀ row ∈ live marks, row.name ≠ u.name

/-- Names that are different are in ascending order. -/
theorem Registry.ascending_sorted {r : Registry} (hnames : r.names.Nodup) :
    (r.sorted.map (·.name)).Pairwise (· < ·) := by
  have hle : r.sorted.Pairwise fun u v => decide (u.name ≤ v.name) = true :=
    List.pairwise_mergeSort
      (fun u v w huv hvw => by
        rw [decide_eq_true_iff] at huv hvw ⊢
        exact String.le_trans huv hvw)
      (fun u v => by simpa using String.le_total u.name v.name) r.migrations
  have hne : (r.sorted.map (·.name)).Nodup := (r.sorted_perm.map _).nodup_iff.mpr hnames
  rw [List.pairwise_map]
  refine (hle.and (List.pairwise_map.mp hne)).imp ?_
  rintro u v ⟨huv, hne⟩
  exact String.not_le.mp fun hvu => hne (String.le_antisymm (of_decide_eq_true huv) hvu)

namespace Migrator

variable {σ : Type} {m : Migrator} {db : Database σ} {s s' : σ} {marks : List MarkRow} {nop : Bool}
  {records : List Migration} {log : List Made}

theorem pending_unapplied (hnames : m.registry.names.Nodup) (hroom : HasRoom marks)
    (hrecords : records.Perm ((live marks).map record)) :
    m.registry.Pending marks (Migrations.unapplied (m.registry.sorted.map (withRecord records))) := by
  obtain ⟨hpending, hnew⟩ := unapplied_known hroom hrecords m.registry.sorted
  rw [hpending]
  refine ⟨(Registry.ascending_sorted hnames).sublist (List.filter_sublist.map _), fun u => ?_⟩
  constructor
  · intro hu
    have hunknown := hnew u hu
    obtain ⟨hmem, hunapplied⟩ := List.mem_filter.mp hu
    rw [withRecord_new hrecords hunknown] at hunapplied
    exact ⟨m.registry.sorted_perm.mem_iff.mp hmem, by simpa using hunapplied, hunknown⟩
  · rintro ⟨hmem, hunapplied, hunknown⟩
    refine List.mem_filter.mpr ⟨m.registry.sorted_perm.mem_iff.mpr hmem, ?_⟩
    rw [withRecord_new hrecords hunknown, hunapplied]
    rfl

/-- The number of the new group. -/
theorem toInt_newGroup (hroom : HasRoom marks) (hrecords : records.Perm ((live marks).map record)) :
    (Migrations.lastGroupId records + 1).toInt = newest marks + 1 := by
  have hlast := toInt_lastGroupId (fun row hrow => (hroom row hrow).1) hrecords
  have hnonneg := newest_nonneg marks
  have hsmall : newest marks < 2 ^ 63 - 1 := by
    rcases newest_mem marks with hzero | ⟨row, hrow, hgroup⟩
    · omega
    · have hmax : Int64.maxValue.toInt = 2 ^ 63 - 1 := by decide
      have hless := (hroom row hrow).2
      omega
  rw [toInt_add_one (n := (newest marks).toNat) (by omega) (by omega)]
  omega

/-- What is done under the lock: the status, and then the migrations that are pending. -/
theorem ends_migrateLocked {r : Except MigrateError MigrationGroup} (hnames : m.registry.names.Nodup)
    (hclock : ∀ s, 0 ≤ db.second s ∧ db.second s < 4294967296) (hroom : HasRoom marks)
    (hshown : m.Shown db s marks) (h : Ends db (m.migrateLocked nop) s log r s') :
    (∃ e, log = [⟨.query m.statusSql, some e⟩]) ∨
      ∃ (group : Int64) (pending : List Migration) (between : List Made) (marked : List Migration)
        (failure : Option MigrateError), m.registry.Pending marks pending ∧
        group.toInt = newest marks + 1 ∧
        m.Course ⟨false, nop⟩ (Migration.AppliedIn group) pending between marked failure ∧
        log = .passed (.query m.statusSql) :: between ∧
        r = match failure with
          | none => .ok (if pending = [] then {} else ⟨group, marked⟩)
          | some e => .error e := by
  rcases ends_status_bind hshown h with ⟨e, hlog⟩ | ⟨records, mid, rest, hrecords, hrest, rfl⟩
  · exact .inl ⟨e, hlog⟩
  · have hpending := pending_unapplied hnames hroom hrecords
    have hgroup := toInt_newGroup hroom hrecords
    right
    simp only at hrest
    split at hrest
    · next hnone =>
      obtain ⟨rfl, -, rfl⟩ := hrest.of_pure
      rw [hnone] at hpending
      exact ⟨_, [], [], [], none, hpending, hgroup, .nil, rfl, rfl⟩
    · next hne =>
      rcases hrest.of_bind with ⟨e, hall, rfl⟩ | ⟨dealt, mid', _, _, hall, hreturn, rfl⟩
      · obtain ⟨marked, failure, hcourse, hr⟩ := ends_applyAll hclock hall
        cases failure with
        | none => cases hr
        | some e' =>
          cases hr
          exact ⟨_, _, _, marked, some e, hpending, hgroup, hcourse, rfl, rfl⟩
      · obtain ⟨rfl, -, rfl⟩ := hreturn.of_pure
        obtain ⟨marked, failure, hcourse, hr⟩ := ends_applyAll hclock hall
        cases failure with
        | none =>
          obtain rfl := Except.ok.inj hr
          rw [List.append_nil]
          refine ⟨_, _, _, dealt, none, hpending, hgroup, hcourse, rfl, ?_⟩
          simp only [if_neg hne]
        | some e' => cases hr

/-- A run that gets the lock and the status takes a course over the migrations that are pending. -/
theorem ends_migrate {r : Except MigrateError MigrationGroup} (hnames : m.registry.names.Nodup)
    (hclock : ∀ s, 0 ≤ db.second s ∧ db.second s < 4294967296) (hroom : HasRoom marks)
    (hshown : m.Shown db (db.answer (.exec m.lockSql) s).2 marks)
    (hstart : [.passed (.exec m.lockSql), .passed (.query m.statusSql)] <+: log)
    (h : Ends db (m.migrate nop) s log r s') :
    ∃ (group : Int64) (pending : List Migration) (between : List Made) (marked : List Migration)
      (failure : Option MigrateError) (given : Option Error), m.registry.Pending marks pending ∧
      group.toInt = newest marks + 1 ∧
      m.Course ⟨false, nop⟩ (Migration.AppliedIn group) pending between marked failure ∧
      log = .passed (.exec m.lockSql) :: .passed (.query m.statusSql) :: between ++
        [⟨.exec m.unlockSql, given⟩] ∧
      r = match failure with
        | none => .ok (if pending = [] then {} else ⟨group, marked⟩)
        | some e => .error e := by
  rcases ends_locked h with ⟨rfl, -⟩ | ⟨e, rfl, -⟩ | ⟨inside, mid, given, hbody, rfl⟩
  · cases List.prefix_nil.mp hstart
  · cases (List.cons_prefix_cons.mp hstart).1
  · rcases ends_migrateLocked hnames hclock hroom hshown hbody with
      ⟨e, rfl⟩ | ⟨group, pending, between, marked, failure, hpending, hgroup, hcourse, rfl, hr⟩
    · cases (List.cons_prefix_cons.mp (List.cons_prefix_cons.mp hstart).2).1
    · exact ⟨group, pending, between, marked, failure, given, hpending, hgroup, hcourse, rfl, hr⟩

/-- Calls for migrations that are pending are calls that a migrator makes. -/
theorem Course.regular {group : Int64} {pending marked : List Migration} {failure : Option MigrateError}
    (hcourse : m.Course ⟨false, nop⟩ (Migration.AppliedIn group) pending log marked failure)
    (hpending : m.registry.Pending marks pending) :
    ∀ made ∈ log, m.Regular made.call := by
  intro made hmade
  obtain ⟨u, hu, v, ⟨moment, rfl⟩, hcall⟩ := hcourse.calls made hmade
  exact regular_of_callsFor hcall ((hpending.mem_iff u).mp hu).1 rfl rfl

/-- **Exactly a prefix is applied and marked.** Migrations with different names are applied to a table
with room for another group, by a migrator that gets the lock and the status; its steps and marks may
fail anywhere. Those that are pending are the registered ones without a live row, unless they are
registered as applied, in ascending order of their names; the group is the one behind the newest of the
whole table. The run deals with a prefix of
them, each with the calls of its step, none with `nop`, and then the mark with the group. If none is
left, the result is the group, or the zero group if there was nothing to do. Otherwise the next one
breaks in one of four ways, which say whether it is marked and what the failure is, and no call is made
for those behind it. A table that is kept has the rows of those that were marked, and no others. -/
theorem migrate_prefix (m : Migrator) (hnames : m.registry.names.Nodup) (nop : Bool) (db : Database σ)
    (hclock : ∀ s, 0 ≤ db.second s ∧ db.second s < 4294967296) (marks : List MarkRow)
    (hroom : HasRoom marks) (s : σ) (hshown : m.Shown db (db.answer (.exec m.lockSql) s).2 marks)
    (hstart : [.passed (.exec m.lockSql), .passed (.query m.statusSql)] <+:
      (m.migrate nop).run.log db s) :
    ∃ (group : Int64) (pending done rest dealt marked : List Migration) (tail : List Made)
      (given : Option Error), m.registry.Pending marks pending ∧ group.toInt = newest marks + 1 ∧
      pending = done ++ rest ∧ List.Forall₂ (Migration.AppliedIn group) done dealt ∧
      (m.migrate nop).run.log db s =
        .passed (.exec m.lockSql) :: .passed (.query m.statusSql) ::
          (dealt.flatMap (m.callsFor ⟨false, nop⟩)).map .passed ++ tail ++ [⟨.exec m.unlockSql, given⟩] ∧
      ((rest = [] ∧ tail = [] ∧ marked = dealt ∧
          ((m.migrate nop).run.run db s).1 = .ok (if pending = [] then {} else ⟨group, dealt⟩)) ∨
        ∃ u later v isMarked e, rest = u :: later ∧ u.AppliedIn group v ∧
          m.Breaks ⟨false, nop⟩ v tail isMarked e ∧ (∃ made ∈ tail, made.failure ≠ none) ∧
          marked = dealt ++ (if isMarked then [v] else []) ∧
          ((m.migrate nop).run.run db s).1 = .error e) ∧
      ∀ rows, m.Keeps db rows →
        rows ((m.migrate nop).run.run db s).2 = rows s ++ marked.map Migration.row := by
  obtain ⟨log, r, s', hends⟩ : ∃ log r s', Ends db (m.migrate nop) s log r s' := ⟨_, _, _, rfl, rfl⟩
  have hcalls := hends.log_eq
  rw [hcalls] at hstart
  obtain ⟨group, pending, between, marked, failure, given, hpending, hgroup, hcourse, rfl, hr⟩ :=
    ends_migrate hnames hclock hroom hshown hstart hends
  have hrows : ∀ rows, m.Keeps db rows →
      rows ((m.migrate nop).run.run db s).2 = rows s ++ marked.map Migration.row := by
    intro rows hkeeps
    rw [hkeeps.rows_locked (hcourse.regular hpending) hcalls, hcourse.added]
    rfl
  obtain ⟨done, rest, dealt, tail, extra, hsplit, hdealt, rfl, rfl, hend⟩ := hcourse.split
  refine ⟨group, pending, done, rest, dealt, _, tail, given, hpending, hgroup, hsplit, hdealt, hcalls,
    ?_, hrows⟩
  rw [hends.run_eq, hr]
  rcases hend with ⟨rfl, rfl, rfl, rfl⟩ | ⟨u, v, later, isMarked, e, rfl, has, hbreaks, rfl, rfl⟩
  · left
    simp only [List.append_nil, and_self]
  · exact .inr ⟨u, later, v, isMarked, e, rfl, has, hbreaks, hbreaks.fails, rfl, rfl⟩

/-- The step of the second migration fails, and it is marked all the same. Nothing is registered for the
row that is there before. -/
theorem migrate_prefix_brittle :
    let refused := refusal 62 "Syntax error"
    let db := brittle.memory.failing fun call => if call = .custom "fill" then some refused else none
    let s : Memory := { marks := [⟨"0_old", 4, 7, 1⟩] }
    brittle.registry.names.Nodup ∧ (∀ s, 0 ≤ db.second s ∧ db.second s < 4294967296) ∧
      HasRoom s.marks ∧ brittle.Shown db (db.answer (.exec brittle.lockSql) s).2 s.marks ∧
      [.passed (.exec brittle.lockSql), .passed (.query brittle.statusSql)] <+:
        (brittle.migrate false).run.log db s ∧
      ((brittle.migrate false).run.run db s).1 = .error (.step "2_filling" refused) ∧
      ∃ marked : List Migration, ((brittle.migrate false).run.run db s).2.marks =
        s.marks ++ marked.map Migration.row := by
  intro refused db s
  have hkeeps : brittle.Keeps db Memory.marks := (memory_keeps _).failing _
  have hclock : ∀ s, 0 ≤ db.second s ∧ db.second s < 4294967296 := by
    intro s
    show (0 : Int) ≤ 0 ∧ (0 : Int) < 4294967296
    decide
  have hroom : HasRoom s.marks := by
    unfold HasRoom
    decide
  have hshown : brittle.Shown db (db.answer (.exec brittle.lockSql) s).2 s.marks := hkeeps.shown_locked s
  have hstart : [.passed (.exec brittle.lockSql), .passed (.query brittle.statusSql)] <+:
      (brittle.migrate false).run.log db s := by
    simp only [migrate, migrateLocked, status, brittle, Registry.brittle_sorted]
    decide +kernel
  have hresult : ((brittle.migrate false).run.run db s).1 = .error (.step "2_filling" refused) := by
    simp only [migrate, migrateLocked, status, brittle, Registry.brittle_sorted]
    decide +kernel
  obtain ⟨_, _, _, _, _, marked, _, _, _, _, _, _, _, _, hrows⟩ :=
    migrate_prefix brittle (by decide) false db hclock s.marks hroom s hshown hstart
  exact ⟨by decide, hclock, hroom, hshown, hstart, hresult, marked, hrows _ hkeeps⟩

/-- **A migration that is registered with a group is passed over**, though the table has no row of it. -/
theorem passed_over :
    let db := preset.memory
    preset.registry.names.Nodup ∧ preset.Keeps db Memory.marks ∧ HasRoom [] ∧
      preset.registry.names = ["001_a", "002_b"] ∧
      (preset.migrate false).run.log db {} =
        [.passed (.exec preset.lockSql), .passed (.query preset.statusSql),
          .passed (.insert preset.insertSql
            (markBlock { name := "002_b", group := 1, appliedAt := some 0 } 0 1)),
          .passed (.exec preset.unlockSql)] ∧
      (preset.migrate false).run.run db {} =
        (.ok ⟨1, [{ name := "002_b", group := 1, appliedAt := some 0 }]⟩,
          { marks := [⟨"002_b", 1, 0, 1⟩] }) := by
  refine ⟨by decide, memory_keeps _, List.forall_mem_nil _, by decide, ?_, ?_⟩
  · simp only [migrate, migrateLocked, status, preset, Registry.preset_sorted]
    decide +kernel
  · simp only [migrate, migrateLocked, status, preset, Registry.preset_sorted]
    decide +kernel

end Migrator

end ColumnWire

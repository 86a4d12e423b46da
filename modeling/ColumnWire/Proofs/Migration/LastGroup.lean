import ColumnWire.Proofs.Migration.Course

/-!
# Which group is undone

The last group is looked for among the migrations that are registered, not among all rows of the
table. So the group that is undone is the highest of those that the status knows for registered names
(`Migrator.rollback_last_known`): nothing but rows of that group is cancelled, but it is the newest
group of the table only if something of that is registered. A migrator that knows nothing of the
newest group undoes an older one (`Migrator.rollback_older_group`).
-/
namespace ColumnWire

open Plan MarkRow

namespace MarkRow

variable {marks added : List MarkRow} {group : Int64}

/-- Cancelling rows of one group leaves the live rows of all others. -/
theorem filter_live_cancelled (hadded : ∀ row ∈ added, row.group = group) :
    (live (marks ++ added.map opposite)).filter (·.group ≠ group) =
      (live marks).filter (·.group ≠ group) := by
  induction added generalizing marks with
  | nil => rw [List.map_nil, List.append_nil]
  | cons row added ih =>
    obtain ⟨hgroup, hrest⟩ := List.forall_mem_cons.mp hadded
    rw [List.map_cons, List.append_cons, ih hrest, live_cancel]
    rcases List.exists_or_eq_self_of_eraseP row.sameKey (live marks) with
      hsame | ⟨other, before, after, -, hkey, hlive, herased⟩
    · rw [hsame]
    · simp only [sameKey, Bool.and_eq_true, decide_eq_true_eq] at hkey
      rw [herased, hlive]
      simp [hkey.2, hgroup]

end MarkRow

namespace Migrator

variable {σ : Type} {m : Migrator} {db : Database σ} {s s' : σ} {marks : List MarkRow} {nop : Bool}
  {records : List Migration} {log : List Made} {u : Migration}

/-- Members of the last group have rows of that group, which say when they were applied. -/
theorem mem_lastGroup (hunapplied : ∀ u ∈ m.registry.migrations, u.group = 0)
    (hrecords : records.Perm ((live marks).map record))
    (hu : u ∈ (Migrations.lastGroup (m.registry.sorted.map (withRecord records))).members) :
    ∃ v ∈ m.registry.migrations, ∃ row ∈ live marks, row.name = v.name ∧
      row.group = Migrations.lastGroupId (m.registry.sorted.map (withRecord records)) ∧
      u = { v with group := row.group, appliedAt := some (row.second.toNat : Int) } := by
  unfold Migrations.lastGroup at hu
  simp only at hu
  split at hu
  · cases hu
  · next hnonzero =>
    obtain ⟨hmem, hgroup⟩ := List.mem_filter.mp hu
    obtain ⟨v, hv, rfl⟩ := List.mem_map.mp hmem
    have hv' := m.registry.sorted_perm.mem_iff.mp hv
    have hgroup' := of_decide_eq_true hgroup
    by_cases hlive : ∃ row ∈ live marks, row.name = v.name
    · obtain ⟨row, hrow, hname, hrecord⟩ := withRecord_recorded hrecords hlive
      rw [hrecord] at hgroup' ⊢
      exact ⟨v, hv', row, hrow, hname, hgroup', rfl⟩
    · rw [withRecord_new hrecords fun row hrow hname => hlive ⟨row, hrow, hname⟩,
        hunapplied v hv'] at hgroup'
      exact absurd hgroup'.symm hnonzero

/-- The last group that is known has the highest number that the status has for a registered name. -/
theorem recorded_le_lastGroup (hrecords : records.Perm ((live marks).map record))
    (hu : u ∈ m.registry.migrations) (hlive : ∃ row ∈ live marks, row.name = u.name) :
    ∃ row ∈ live marks, row.name = u.name ∧ row.group.toInt ≤
      (Migrations.lastGroupId (m.registry.sorted.map (withRecord records))).toInt := by
  obtain ⟨row, hrow, hname, hrecord⟩ := withRecord_recorded hrecords hlive
  have hmem : withRecord records u ∈ m.registry.sorted.map (withRecord records) :=
    List.mem_map_of_mem (m.registry.sorted_perm.mem_iff.mpr hu)
  have hle := (Migrations.lastGroupId_spec (List.ne_nil_of_mem hmem)).1 _ hmem
  rw [hrecord] at hle
  exact ⟨row, hrow, hname, hle⟩

/-- It is not above the newest group. -/
theorem lastGroup_le_newest (hunapplied : ∀ u ∈ m.registry.migrations, u.group = 0)
    (hrecords : records.Perm ((live marks).map record)) :
    (Migrations.lastGroupId (m.registry.sorted.map (withRecord records))).toInt ≤ newest marks := by
  have hnonneg := newest_nonneg marks
  have hzero : (0 : Int64).toInt = 0 := by decide
  by_cases hne : m.registry.sorted.map (withRecord records) = []
  · rw [hne]
    exact hnonneg
  · obtain ⟨v, hv, hid⟩ := (Migrations.lastGroupId_spec hne).2
    rw [← hid]
    obtain ⟨u, hu, rfl⟩ := List.mem_map.mp hv
    by_cases hlive : ∃ row ∈ live marks, row.name = u.name
    · obtain ⟨row, hrow, -, hrecord⟩ := withRecord_recorded hrecords hlive
      rw [hrecord]
      exact le_newest hrow
    · rw [withRecord_new hrecords fun row hrow hname => hlive ⟨row, hrow, hname⟩,
        hunapplied u (m.registry.sorted_perm.mem_iff.mp hu), hzero]
      exact hnonneg

/-- A run over the last group that a status knows. -/
def Undoes (m : Migrator) (nop : Bool) (records : List Migration) (between : List Made)
    (marked : List Migration) (failure : Option MigrateError) : Prop :=
  m.Course ⟨true, nop⟩ (· = ·)
    (Migrations.lastGroup (m.registry.sorted.map (withRecord records))).members.reverse
    between marked failure

/-- What is done under the lock: the status, and then the members of the last group that it knows. -/
theorem ends_rollbackLocked {r : Except MigrateError MigrationGroup}
    (hunapplied : ∀ u ∈ m.registry.migrations, u.group = 0) (hshown : m.Shown db s marks)
    (h : Ends db (m.rollbackLocked nop) s log r s') :
    (∃ e, log = [⟨.query m.statusSql, some e⟩]) ∨ ∃ records between marked failure,
      records.Perm ((live marks).map record) ∧ m.Undoes nop records between marked failure ∧
      log = .passed (.query m.statusSql) :: between := by
  rcases ends_status_bind hshown h with ⟨e, hlog⟩ | ⟨records, mid, rest, hrecords, hrest, rfl⟩
  · exact .inl ⟨e, hlog⟩
  · have hat : ∀ u ∈ (Migrations.lastGroup
        (m.registry.sorted.map (withRecord records))).members.reverse,
        ∃ moment : UInt32, u.appliedAt = some moment.toNat := by
      intro u hu
      obtain ⟨v, -, row, -, -, -, rfl⟩ := mem_lastGroup hunapplied hrecords (List.mem_reverse.mp hu)
      exact ⟨row.second, rfl⟩
    right
    rcases hrest.of_bind with ⟨e, hall, rfl⟩ | ⟨_, mid', _, _, hall, hreturn, rfl⟩
    · obtain ⟨marked, failure, hcourse, -⟩ := ends_undoAll hat hall
      exact ⟨records, _, marked, failure, hrecords, hcourse, rfl⟩
    · obtain ⟨-, -, rfl⟩ := hreturn.of_pure
      obtain ⟨marked, failure, hcourse, -⟩ := ends_undoAll hat hall
      rw [List.append_nil]
      exact ⟨records, _, marked, failure, hrecords, hcourse, rfl⟩

/-- A run does not get to any migration, or it goes over the last group. The records are those of the
status, or those that it would have had. -/
theorem ends_rollback {r : Except MigrateError MigrationGroup}
    (hunapplied : ∀ u ∈ m.registry.migrations, u.group = 0)
    (hshown : m.Shown db (db.answer (.exec m.lockSql) s).2 marks)
    (h : Ends db (m.rollback nop) s log r s') :
    ∃ records : List Migration, records.Perm ((live marks).map record) ∧
      ((∀ made ∈ log, made.call ∈ m.framing) ∨ ∃ between marked failure given,
        m.Undoes nop records between marked failure ∧
        log = .passed (.exec m.lockSql) :: .passed (.query m.statusSql) :: between ++
          [⟨.exec m.unlockSql, given⟩]) := by
  rcases ends_locked h with ⟨rfl, -⟩ | ⟨e, rfl, -⟩ | ⟨inside, mid, given, hbody, rfl⟩
  · exact ⟨_, .refl _, .inl (List.forall_mem_nil _)⟩
  · exact ⟨_, .refl _, .inl (by simp [framing])⟩
  · rcases ends_rollbackLocked hunapplied hshown hbody with
      ⟨e, rfl⟩ | ⟨records, between, marked, failure, hrecords, hcourse, rfl⟩
    · exact ⟨_, .refl _, .inl (by simp [framing, Made.passed])⟩
    · exact ⟨records, hrecords, .inr ⟨between, marked, failure, given, hcourse, rfl⟩⟩

section
variable {between : List Made} {marked : List Migration} {failure : Option MigrateError}

/-- Its calls deal with registered migrations that have a live row in the last group. -/
theorem Undoes.calls (h : m.Undoes nop records between marked failure)
    (hunapplied : ∀ u ∈ m.registry.migrations, u.group = 0)
    (hrecords : records.Perm ((live marks).map record)) :
    let group := Migrations.lastGroupId (m.registry.sorted.map (withRecord records))
    ∀ made ∈ between, ∃ u ∈ m.registry.migrations, ∃ row ∈ live marks, row.name = u.name ∧
      row.group = group ∧ made.call ∈ m.callsFor ⟨true, nop⟩
        { u with group, appliedAt := some (row.second.toNat : Int) } := by
  intro group made hmade
  obtain ⟨u, hu, _, rfl, hcall⟩ := Course.calls h made hmade
  obtain ⟨v, hv, row, hrow, hname, hgroup, rfl⟩ :=
    mem_lastGroup hunapplied hrecords (List.mem_reverse.mp hu)
  rw [hgroup] at hcall
  exact ⟨v, hv, row, hrow, hname, hgroup, hcall⟩

/-- It leaves the live rows of all other groups. -/
theorem Undoes.others (h : m.Undoes nop records between marked failure)
    (hunapplied : ∀ u ∈ m.registry.migrations, u.group = 0)
    (hrecords : records.Perm ((live marks).map record)) :
    let group := Migrations.lastGroupId (m.registry.sorted.map (withRecord records))
    (live (marks ++ between.flatMap Made.rows)).filter (·.group ≠ group) =
      (live marks).filter (·.group ≠ group) := by
  have hopposite : marked.map (markRowOf ⟨true, nop⟩) = (marked.map Migration.row).map opposite := by
    rw [List.map_map]
    rfl
  rw [Course.added h, hopposite]
  refine filter_live_cancelled fun row hrow => ?_
  obtain ⟨u, hu, rfl⟩ := List.mem_map.mp hrow
  obtain ⟨_, hmem, rfl⟩ := Course.marked_mem h u hu
  obtain ⟨v, -, row, -, -, hgroup, rfl⟩ := mem_lastGroup hunapplied hrecords (List.mem_reverse.mp hmem)
  exact hgroup

end

/-- **No group is undone but the newest that is known.** Of migrations that are registered as not
applied, whatever else the table has and whatever fails: every call but those for the lock and the
status deals with a registered migration that has a live row in one group. For no registered name does
the status show only higher groups than this. It is the newest group of the whole table if all live
rows of some registered name are in the newest group. A table that is kept has the same live rows of
all other groups as before. -/
theorem rollback_last_known (m : Migrator) (hunapplied : ∀ u ∈ m.registry.migrations, u.group = 0)
    (nop : Bool) (db : Database σ) (marks : List MarkRow) (s : σ)
    (hshown : m.Shown db (db.answer (.exec m.lockSql) s).2 marks) :
    ∃ group : Int64,
      (∀ u ∈ m.registry.migrations, (∃ row ∈ live marks, row.name = u.name) →
        ∃ row ∈ live marks, row.name = u.name ∧ row.group.toInt ≤ group.toInt) ∧
      (∀ u ∈ m.registry.migrations, (∃ row ∈ live marks, row.name = u.name) →
        (∀ row ∈ live marks, row.name = u.name → row.group.toInt = newest marks) →
        group.toInt = newest marks) ∧
      (∀ made ∈ (m.rollback nop).run.log db s, made.call ∈ m.framing ∨
        ∃ u ∈ m.registry.migrations, ∃ row ∈ live marks, row.name = u.name ∧ row.group = group ∧
          made.call ∈ m.callsFor ⟨true, nop⟩
            { u with group, appliedAt := some (row.second.toNat : Int) }) ∧
      ∀ rows, m.Keeps db rows → rows s = marks →
        (live (rows ((m.rollback nop).run.run db s).2)).filter (·.group ≠ group) =
          (live marks).filter (·.group ≠ group) := by
  obtain ⟨log, r, s', hends⟩ : ∃ log r s', Ends db (m.rollback nop) s log r s' := ⟨_, _, _, rfl, rfl⟩
  have hcalls := hends.log_eq
  obtain ⟨records, hrecords, hlog⟩ := ends_rollback hunapplied hshown hends
  refine ⟨Migrations.lastGroupId (m.registry.sorted.map (withRecord records)),
    fun u hu hlive => recorded_le_lastGroup hrecords hu hlive, fun u hu hlive hnew => ?_, ?_, ?_⟩
  · obtain ⟨row, hrow, hname, hle⟩ := recorded_le_lastGroup hrecords hu hlive
    rw [hnew row hrow hname] at hle
    exact Int.le_antisymm (lastGroup_le_newest hunapplied hrecords) hle
  · rw [hcalls]
    rcases hlog with hnone | ⟨between, marked, failure, given, hundoes, rfl⟩
    · exact fun made hmade => .inl (hnone made hmade)
    · simp only [List.cons_append, List.forall_mem_cons, List.forall_mem_append]
      exact ⟨.inl (by simp [framing, Made.passed]), .inl (by simp [framing, Made.passed]),
        fun made hmade => .inr (hundoes.calls hunapplied hrecords made hmade),
        .inl (by simp [framing]), List.forall_mem_nil _⟩
  · intro rows hkeeps hmarks
    rcases hlog with hnone | ⟨between, marked, failure, given, hundoes, rfl⟩
    · rw [hkeeps.rows_framing (hcalls ▸ hnone), hmarks]
    · have hregular : ∀ made ∈ between, m.Regular made.call := by
        intro made hmade
        obtain ⟨u, hu, row, -, -, -, hcall⟩ := hundoes.calls hunapplied hrecords made hmade
        exact regular_of_callsFor hcall hu rfl rfl
      rw [hkeeps.rows_locked hregular hcalls, hmarks]
      exact hundoes.others hunapplied hrecords

/-- A migrator that knows the first migration only. -/
def behind : Migrator where
  registry := { migrations := [
    { name := "001_a", up := some (.custom "up 001_a"), down := some (.custom "down 001_a") }] }

theorem behind_sorted : behind.registry.sorted = behind.registry.migrations :=
  List.mergeSort_singleton _

/-- A table with a group of another migration on top. -/
def ahead : Memory := { marks := [⟨"001_a", 1, 100, 1⟩, ⟨"002_b", 2, 200, 1⟩] }

/-- The group that is undone is one that this migrator knows, and the live rows of all others stay. -/
theorem rollback_last_known_behind :
    (∀ u ∈ behind.registry.migrations, u.group = 0) ∧
      behind.Shown behind.memory (behind.memory.answer (.exec behind.lockSql) ahead).2 ahead.marks ∧
      behind.Keeps behind.memory Memory.marks ∧
      ∃ group : Int64, 1 ≤ group.toInt ∧
        (live ((behind.rollback false).run.run behind.memory ahead).2.marks).filter (·.group ≠ group) =
          (live ahead.marks).filter (·.group ≠ group) := by
  have hunapplied : ∀ u ∈ behind.registry.migrations, u.group = 0 := by decide
  have hkeeps := memory_keeps behind
  have hshown := hkeeps.shown_locked ahead
  obtain ⟨group, hknown, -, -, hothers⟩ :=
    rollback_last_known behind hunapplied false behind.memory ahead.marks ahead hshown
  obtain ⟨row, hrow, hname, hle⟩ := hknown _ List.mem_cons_self
    ⟨⟨"001_a", 1, 100, 1⟩, by decide, rfl⟩
  have hone : ∀ row ∈ live ahead.marks, row.name = "001_a" → 1 ≤ row.group.toInt := by decide
  exact ⟨hunapplied, hshown, hkeeps, group, Int.le_trans (hone row hrow hname) hle,
    hothers Memory.marks hkeeps rfl⟩

/-- **An older group is undone** by a migrator that knows nothing of the newest one. -/
theorem rollback_older_group :
    newest ahead.marks = 2 ∧
      (behind.rollback false).run.log behind.memory ahead =
        [.passed (.exec behind.lockSql), .passed (.query behind.statusSql),
          .passed (.custom "down 001_a"),
          .passed (.insert behind.insertSql
            (markBlock { name := "001_a", group := 1, appliedAt := some 100 } 100 (-1))),
          .passed (.exec behind.unlockSql)] ∧
      ((behind.rollback false).run.run behind.memory ahead).2.marks =
        ahead.marks ++ [⟨"001_a", 1, 100, -1⟩] := by
  refine ⟨by decide, ?_, ?_⟩
  · simp only [rollback, rollbackLocked, status, behind_sorted]
    decide +kernel
  · simp only [rollback, rollbackLocked, status, behind_sorted]
    decide +kernel

end Migrator

end ColumnWire

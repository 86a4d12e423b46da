import ColumnWire.Proofs.Migration.Discovery
import ColumnWire.Proofs.Migration.Undo

/-!
# How often a name is run

A registry keeps every migration that is added to it, also one whose name is known already; only the
files of one directory are put together by their names. So a name is known as often as there are
registrations that have it (`Registry.count_names_after`), and one run deals with it just as often
(`Migrator.migrate_as_registered`): once if one registration has it, and twice if two of them do
(`Migrator.migrate_twice`).
-/
namespace ColumnWire

open Plan MarkRow

/-! ## Registrations -/

/-- The migration that a file is for. -/
def DirectoryEntry.migration? (entry : DirectoryEntry) : Option String :=
  match entry.kind with
  | .file _ => (Registry.classify? entry.name).map (·.1)
  | .directory => none

/-- Whether an entry does not have to be read, or can be. -/
def DirectoryEntry.isReadable (entry : DirectoryEntry) : Bool :=
  match entry.kind with
  | .file content => entry.migration?.isNone || (FileFault.text content).toOption.isSome
  | .directory => true

/-- A call that may add to a registry. -/
inductive Registration where
  | added (m : Migration)
  | discovered (path : String) (entries : Except FileFault (List DirectoryEntry))

namespace Registration

/-- Whether a name is registered by a call. -/
def has (name : String) : Registration → Bool
  | .added m => m.name = name
  | .discovered _ (.ok entries) =>
    entries.all DirectoryEntry.isReadable && entries.any fun entry => entry.migration? = some name
  | .discovered _ (.error _) => false

/-- The files of a directory have different names. -/
def Distinct : Registration → Prop
  | .discovered _ (.ok entries) => (entries.map (·.name)).Nodup
  | _ => True

end Registration

namespace Registry

variable {r : Registry} {name : String} {entries : List DirectoryEntry} {history : List Registration}
  {registration : Registration}

/-- A registry after one more call. -/
def register (r : Registry) : Registration → Registry
  | .added m => r.add m
  | .discovered path entries => ((discoverInPlace path entries).run.run r).2

/-- A registry after calls on the empty one. -/
def after (history : List Registration) : Registry := history.foldl register {}

theorem migration?_eq_some {entry : DirectoryEntry} : entry.migration? = some name ↔
    ∃ d bytes, entry = ⟨Direction.file d name, .file bytes⟩ := by
  obtain ⟨file, kind⟩ := entry
  cases kind with
  | file bytes =>
    simp only [DirectoryEntry.migration?, Option.map_eq_some_iff, Prod.exists, DirectoryEntry.mk.injEq,
      FileKind.file.injEq]
    constructor
    · rintro ⟨_, d, hclassify, rfl⟩
      exact ⟨d, bytes, classify?_eq_some.mp hclassify, rfl⟩
    · rintro ⟨d, _, hfile, rfl⟩
      exact ⟨name, d, classify?_eq_some.mpr hfile, rfl⟩
  | directory => simp [DirectoryEntry.migration?]

theorem any_migration? : (entries.any fun entry => decide (entry.migration? = some name)) = true ↔
    ∃ d content, Has entries name d content := by
  simp only [List.any_eq_true, decide_eq_true_eq, migration?_eq_some]
  constructor
  · rintro ⟨_, hmem, d, bytes, rfl⟩
    exact ⟨d, _, bytes, hmem, rfl⟩
  · rintro ⟨d, _, bytes, hmem, -⟩
    exact ⟨_, hmem, d, bytes, rfl⟩

theorem all_isReadable : entries.all DirectoryEntry.isReadable = true ↔ Readable entries := by
  rw [List.all_eq_true]
  constructor
  · rintro hall name d fault ⟨bytes, hmem, htext⟩
    have hread := hall _ hmem
    have hname : DirectoryEntry.migration? ⟨d.file name, .file bytes⟩ = some name :=
      migration?_eq_some.mpr ⟨d, bytes, rfl⟩
    simp [DirectoryEntry.isReadable, hname, htext, Except.toOption] at hread
  · intro hreadable entry hmem
    obtain ⟨file, kind⟩ := entry
    cases kind with
    | directory => rfl
    | file bytes =>
      simp only [DirectoryEntry.isReadable, Bool.or_eq_true]
      cases hname : DirectoryEntry.migration? ⟨file, .file bytes⟩ with
      | none => exact .inl rfl
      | some name =>
        obtain ⟨d, _, hentry⟩ := migration?_eq_some.mp hname
        cases hentry
        cases htext : FileFault.text bytes with
        | ok text => exact .inr rfl
        | error fault => exact absurd ⟨bytes, hmem, htext⟩ (hreadable name d fault)

/-- A directory registers a name if it has a file for it and all that is asked for can be read. -/
theorem has_discovered {path : String} : (Registration.discovered path (.ok entries)).has name = true ↔
    Readable entries ∧ ∃ d content, Has entries name d content := by
  rw [Registration.has, Bool.and_eq_true, all_isReadable, any_migration?]

theorem Discovered.nodup {found : List Migration} (h : Discovered entries found) :
    (found.map (·.name)).Nodup := by
  refine h.ascending.imp ?_
  rintro a _ hless rfl
  exact String.lt_irrefl _ hless

/-- **What one call adds**: a name that it has, once more. -/
theorem count_names_register (hdistinct : registration.Distinct) (name : String) :
    (r.register registration).names.count name =
      r.names.count name + if registration.has name then 1 else 0 := by
  match registration with
  | .added m =>
    simp only [register, add, names, List.map_append, List.map_singleton, List.count_append,
      List.count_singleton, beq_iff_eq, Registration.has, decide_eq_true_eq]
  | .discovered path (.error fault) => rfl
  | .discovered path (.ok entries) =>
    have hall := scan_all hdistinct
    simp only [register, run_discoverInPlace, discover_eq]
    cases hscan : scan entries [] with
    | error fault =>
      simp only [hscan] at hall
      obtain ⟨file, d, hhas⟩ := hall
      have hnone : ¬ (Registration.discovered path (.ok entries)).has name = true :=
        fun hname => (has_discovered.mp hname).1 file d fault hhas
      simp only [Except.map, if_neg hnone, Nat.add_zero]
    | ok found =>
      simp only [hscan] at hall
      obtain ⟨hreadable, hfound⟩ := hall
      have hone : (Registration.discovered path (.ok entries)).has name = true ↔
          name ∈ found.map (·.name) := by
        rw [has_discovered, hfound.names]
        exact and_iff_right hreadable
      simp only [Except.map, names, List.map_append, List.count_append, hfound.nodup.count, hone]

/-- **A name is known as often as it was registered.** -/
theorem count_names_after (hdirs : ∀ registration ∈ history, registration.Distinct) (name : String) :
    (after history).names.count name = history.countP (·.has name) := by
  have hfrom (r : Registry) :
      (history.foldl register r).names.count name = r.names.count name + history.countP (·.has name) := by
    induction history generalizing r with
    | nil => rfl
    | cons registration history ih =>
      rw [List.forall_mem_cons] at hdirs
      rw [List.foldl_cons, ih hdirs.2, count_names_register hdirs.1, List.countP_cons]
      omega
  have hempty : ({} : Registry).names.count name = 0 := rfl
  rw [after, hfrom, hempty, Nat.zero_add]

end Registry

/-! ## Rows that are added -/

/-- The rows that a call adds. -/
def Call.rows : Call → List MarkRow
  | .insert _ b => b.markRows
  | _ => []

theorem Step.rows_eq_nil {step : Option Step} {call : Call} (h : call ∈ Step.calls step) :
    call.rows = [] := by
  match step with
  | some (.sql text) =>
    obtain ⟨sql, -, rfl⟩ := List.mem_map.mp h
    rfl
  | some (.custom label) =>
    obtain rfl := List.mem_singleton.mp h
    rfl

namespace Migrator

variable {α σ : Type} {m : Migrator} {u : Migration} {us rest listed : List Migration} {calls : List Call}
  {nop : Bool} {marks : List MarkRow} {records : List Migration} {name : String}

/-- All rows that are added so far say that something was applied. In their order they are about some of
the listed migrations, each of them once at most, that come before the ones still to be dealt with. -/
structure Recorded (listed rest : List Migration) (calls : List Call) : Prop where
  signs : ∀ row ∈ calls.flatMap Call.rows, row.sign = 1
  names : ((calls.flatMap Call.rows).map (·.name) ++ rest.map (·.name)).Sublist (listed.map (·.name))

theorem Recorded.drop (h : Recorded listed rest calls) : Recorded listed [] calls where
  signs := h.signs
  names := by
    rw [List.map_nil, List.append_nil]
    exact (List.sublist_append_left _ _).trans h.names

/-- Calls without rows do not count. -/
theorem Recorded.of_rows {calls' : List Call} (h : Recorded listed rest calls)
    (hrows : calls'.flatMap Call.rows = calls.flatMap Call.rows) : Recorded listed rest calls' where
  signs := hrows ▸ h.signs
  names := hrows ▸ h.names

/-- The mark of a migration is one row. -/
theorem Recorded.mark {sql : String} {second : Nat} {v : Migration} (h : Recorded listed (u :: us) calls)
    (hname : v.name = u.name) : Recorded listed us (calls ++ [.insert sql (markBlock v second 1)]) := by
  have hone : (calls ++ [Call.insert sql (markBlock v second 1)]).flatMap Call.rows =
      calls.flatMap Call.rows ++ [v.markRow (.ofNat second) 1] := by
    rw [List.flatMap_append, List.flatMap_singleton, Call.rows, (carries_markBlock v second 1).markRows_eq]
    rfl
  have hrow : (v.markRow (.ofNat second) 1).name = u.name := hname
  constructor
  · rw [hone]
    intro row hmem
    rcases List.mem_append.mp hmem with hold | hnew
    · exact h.signs row hold
    · rw [List.mem_singleton.mp hnew]
      rfl
  · rw [hone, List.map_append, List.map_singleton, hrow, List.append_assoc, List.singleton_append]
    exact h.names

/-- The rows that are added so far are recorded, wherever a run ends. -/
theorem recorded_perform {step : Option Step} {v : Migration} (h : Recorded listed (u :: us) calls)
    (hname : v.name = u.name) :
    Traces (Recorded listed us) (Recorded listed []) (m.perform u.name step (m.markApplied v)) calls := by
  have hstep : Meets calling (fun _ _ => True) (fun _ => Recorded listed (u :: us)) (runStep step).run calls := by
    refine (meets_runStep (K := fun _ => Recorded listed (u :: us)) ?_ h).mono fun _ _ ⟨_, _, hstep⟩ => hstep
    intro made call calls hmade hrecorded
    refine ⟨trivial, ?_⟩
    rintro answer _ rfl
    have hrows : call.rows = [] := Step.rows_eq_nil (hmade.subset (by simp))
    exact hrecorded.of_rows (by simp [hrows])
  refine meets_perform hstep ?_ (fun _ _ hrecorded => hrecorded.drop) fun _ _ _ hrecorded => hrecorded.drop
  intro calls hrecorded
  refine meets_markApplied ?_ fun _ => hrecorded.drop
  intro second _ _
  refine ⟨trivial, ?_, ?_⟩
  · rintro _ rfl
    exact hrecorded.mark hname
  · rintro _ _ rfl
    exact (hrecorded.mark hname).drop

theorem recorded_applyAll {group : Int64} (h : Recorded listed us calls) :
    Traces (Recorded listed []) (Recorded listed []) (m.applyAll nop group us) calls := by
  refine meets_applyAll ?_ h
  intro u us calls hrecorded
  exact recorded_perform hrecorded rfl

theorem recorded_migrateLocked (m : Migrator) (nop : Bool) :
    Traces (Recorded m.registry.sorted []) (Recorded m.registry.sorted []) (m.migrateLocked nop) [] := by
  have hquery (rest : List Migration) (hrest : (rest.map Migration.name).Sublist
      (m.registry.sorted.map Migration.name)) :
      Recorded m.registry.sorted rest [.query m.statusSql] :=
    { signs := List.forall_mem_nil _, names := hrest }
  refine (m.calls_status.mono (fun _ _ h => h) ?_).bind ?_
  · rintro e calls rfl
    exact hquery [] (List.nil_sublist _)
  · rintro ⟨known, last⟩ calls ⟨⟨records, rfl⟩, rfl⟩
    simp only
    split
    · exact .pure (hquery [] (List.nil_sublist _))
    · have hnames : ((Migrations.unapplied (m.registry.sorted.map (withRecord records))).map (·.name)).Sublist
          (m.registry.sorted.map (·.name)) := by
        have hnames : (m.registry.sorted.map (withRecord records)).map (·.name) =
            m.registry.sorted.map (·.name) := by simp
        rw [← hnames]
        exact List.filter_sublist.map _
      exact (recorded_applyAll (hquery _ hnames)).bind fun _ _ h => .pure h

/-- What is done under the lock, whatever the answers are. -/
theorem locked_calls {body : Attempt α} {P : List Call → Prop} (hbody : Traces P P body [])
    (db : Database σ) (s : σ) : (m.locked body).run.trace db s = [] ∨
      (m.locked body).run.trace db s = [.exec m.lockSql] ∨
      ∃ between, P between ∧
        (m.locked body).run.trace db s = .exec m.lockSql :: between ++ [.exec m.unlockSql] := by
  by_cases hempty : m.registry.migrations = []
  · rw [locked_of_empty hempty]
    exact .inl rfl
  · rw [locked_of_ne hempty, Plan.trace]
    rcases db.answer (.exec m.lockSql) s with ⟨answer, s'⟩
    cases answer with
    | error e => exact .inr (.inl rfl)
    | ok a =>
      refine .inr (.inr ⟨body.run.trace db s', ?_, ?_⟩)
      · have hrun : Meets calling (fun _ _ => True) (fun _ => P) body.run [] := by
          refine Meets.mono hbody ?_
          rintro (e | a) calls hcalls <;> exact hcalls
        exact hrun.trace db s'
      · simp only [trace_bind, release, Plan.trace]
        rfl

/-- **The rows of a whole run.** -/
theorem recorded_migrate (m : Migrator) (nop : Bool) (db : Database σ) (s : σ) :
    Recorded m.registry.sorted [] ((m.migrate nop).run.trace db s) := by
  have hnothing : Recorded m.registry.sorted [] [] := ⟨List.forall_mem_nil _, List.nil_sublist _⟩
  rcases locked_calls (m.recorded_migrateLocked nop) db s with hnone | hlock | ⟨between, hrecorded, hcalls⟩
  · exact hnone ▸ hnothing
  · exact hlock ▸ hnothing.of_rows rfl
  · refine hcalls ▸ hrecorded.of_rows ?_
    simp [Call.rows]

/-! ## As often as registered -/

theorem count_sorted (r : Registry) (name : String) :
    (r.sorted.map (·.name)).count name = r.names.count name :=
  (r.sorted_perm.map (·.name)).count_eq name

/-- Of what is registered and not applied, the names that have live rows are left out. -/
theorem count_pending (hroom : HasRoom marks) (hrecords : records.Perm ((live marks).map record))
    (hfresh : ∀ u ∈ us, u.isApplied = false) :
    ((Migrations.unapplied (us.map (withRecord records))).map (·.name)).count name =
      if ∃ row ∈ live marks, row.name = name then 0 else (us.map (·.name)).count name := by
  obtain ⟨hpending, hnew⟩ := unapplied_known hroom hrecords us
  rw [hpending]
  split
  · next hlive =>
    obtain ⟨row, hrow, hname⟩ := hlive
    refine List.count_eq_zero.mpr fun hmem => ?_
    obtain ⟨u, hu, rfl⟩ := List.mem_map.mp hmem
    exact hnew u hu row hrow hname
  · next hnone =>
    have hkept : ∀ u ∈ us, u.name = name → (!(withRecord records u).isApplied) = true := by
      intro u hu hname
      rw [withRecord_new hrecords fun row hrow hsame => hnone ⟨row, hrow, hsame.trans hname⟩, hfresh u hu]
      rfl
    simp only [List.count, List.countP_map, List.countP_filter]
    refine List.countP_congr fun u hu => ?_
    simp only [Function.comp_apply, Bool.and_eq_true, beq_iff_eq]
    exact ⟨fun h => h.1, fun hname => ⟨hname, hkept u hu hname⟩⟩

/-- **One run deals with a name as often as it was registered**, however the registry came about and
whatever the database answers. Each listed migration is dealt with once at most, in a piece of its own
that holds what its step calls; so the steps of a name are run no more often than the name was registered,
and no more rows say that it was applied. A name gets as many if the run succeeds over a table whose live
rows do not have it, and none if they do. -/
theorem migrate_as_registered (history : List Registration)
    (hdirs : ∀ registration ∈ history, registration.Distinct) (m : Migrator)
    (hregistry : m.registry = .after history) (nop : Bool) (db : Database σ) (s : σ) :
    let registered (name : String) := history.countP (·.has name)
    let calls := (m.migrate nop).run.trace db s
    (∃ pieces, Deals ⟨false, nop⟩ m.registry.sorted pieces ∧
      (calls = [] ∨ calls = [.exec m.lockSql] ∨ calls = .exec m.lockSql :: .query m.statusSql ::
        pieces.flatMap (Piece.calls m) ++ [.exec m.unlockSql]) ∧
      ∀ name, (pieces.map (·.migration.name)).count name ≤ registered name) ∧
    (∀ row ∈ calls.flatMap Call.rows, row.sign = 1) ∧
    (∀ name, ((calls.flatMap Call.rows).map (·.name)).count name ≤ registered name) ∧
    ∀ (rows : σ → List MarkRow) (group : MigrationGroup) (s' : σ), m.Keeps db rows → HasRoom (rows s) →
      (∀ u ∈ m.registry.migrations, u.isApplied = false) →
      (m.migrate nop).run.run db s = (.ok group, s') →
      calls = .exec m.lockSql :: .query m.statusSql :: group.members.flatMap (m.callsFor ⟨false, nop⟩) ++
        [.exec m.unlockSql] ∧
      rows s' = rows s ++ group.members.map Migration.row ∧
      ∀ name, (group.members.map (·.name)).count name =
        if ∃ row ∈ live (rows s), row.name = name then 0 else registered name := by
  intro registered calls
  have hcount (name : String) : (m.registry.sorted.map (·.name)).count name = registered name := by
    rw [count_sorted, hregistry, Registry.count_names_after hdirs]
  refine ⟨?_, ?_, ?_, ?_⟩
  · rcases locked_calls (m.calls_migrateLocked nop) db s with hnone | hlock | ⟨_, ⟨pieces, hdeals, rfl⟩, hcalls⟩
    · exact ⟨[], ⟨List.nil_sublist _, List.forall_mem_nil _⟩, .inl hnone, fun name => Nat.zero_le _⟩
    · exact ⟨[], ⟨List.nil_sublist _, List.forall_mem_nil _⟩, .inr (.inl hlock), fun name => Nat.zero_le _⟩
    · refine ⟨pieces, hdeals, .inr (.inr hcalls), fun name => ?_⟩
      have hnames := (hdeals.migrations.map (·.name)).count_le name
      rw [hcount, List.map_map] at hnames
      exact hnames
  · exact (m.recorded_migrate nop db s).signs
  · intro name
    have hnames := (m.recorded_migrate nop db s).names.count_le name
    rwa [hcount, List.map_nil, List.append_nil] at hnames
  · intro rows group s' hkeeps hroom hfresh hrun
    obtain ⟨s₁, s₂, between, hlock, hbody, hunlock, hcalls⟩ := hkeeps.succeeds_locked ⟨hrun, rfl⟩
    obtain ⟨records, hrecords, -, happlied, rfl, hrows⟩ := hkeeps.succeeds_migrateLocked_pending hbody
    rw [hlock] at hrecords hrows
    refine ⟨hcalls, hunlock.trans hrows, fun name => ?_⟩
    rw [names_applied happlied, count_pending hroom hrecords, hcount]
    exact fun u hu => hfresh u (m.registry.sorted_perm.mem_iff.mp hu)

end Migrator

namespace Migrator

/-- A directory with one migration is discovered twice. -/
def twiceHistory : List Registration :=
  let orders : DirectoryEntry := ⟨"1_orders.up.sql", .file (.ok (Utf8.encode "CREATE TABLE orders"))⟩
  [.discovered "migrations" (.ok [orders]), .discovered "migrations" (.ok [orders])]

def twice : Migrator := { registry := .after twiceHistory }

theorem distinct_twice : ∀ registration ∈ twiceHistory, registration.Distinct := by
  simp [twiceHistory, Registration.Distinct]

theorem sorted_twice : twice.registry.sorted =
    let orders : Migration := { name := "1_orders", up := some (.sql "CREATE TABLE orders") }
    [orders, orders] := by
  have hregistry : twice.registry.migrations =
      let orders : Migration := { name := "1_orders", up := some (.sql "CREATE TABLE orders") }
      [orders, orders] := by decide +kernel
  rw [Registry.sorted, Migrations.sorted, hregistry]
  exact List.mergeSort_of_pairwise (by decide)

/-- Both are members of the new group, and no other name has a row. -/
theorem migrate_as_registered_twice :
    let orders : Migration :=
      { name := "1_orders", group := 1, appliedAt := some 0, up := some (.sql "CREATE TABLE orders") }
    let s' : Memory := { marks := [⟨"1_orders", 1, 0, 1⟩, ⟨"1_orders", 1, 0, 1⟩] }
    let calls := (twice.migrate false).run.trace twice.memory {}
    (∀ registration ∈ twiceHistory, registration.Distinct) ∧ twice.registry = .after twiceHistory ∧
      twice.Keeps twice.memory Memory.marks ∧ HasRoom [] ∧
      (∀ u ∈ twice.registry.migrations, u.isApplied = false) ∧
      (twice.migrate false).run.run twice.memory {} = (.ok ⟨1, [orders, orders]⟩, s') ∧
      calls = .exec twice.lockSql :: .query twice.statusSql ::
        [orders, orders].flatMap (twice.callsFor ⟨false, false⟩) ++ [.exec twice.unlockSql] ∧
      ∀ name ≠ "1_orders", ((calls.flatMap Call.rows).map (·.name)).count name = 0 := by
  intro orders s' calls
  have hkeeps : twice.Keeps twice.memory Memory.marks := memory_keeps _
  have hroom : HasRoom [] := fun row hrow => absurd hrow List.not_mem_nil
  have hfresh : ∀ u ∈ twice.registry.migrations, u.isApplied = false := by decide +kernel
  have hrun : (twice.migrate false).run.run twice.memory {} = (.ok ⟨1, [orders, orders]⟩, s') := by
    simp only [migrate, migrateLocked, status, sorted_twice]
    decide +kernel
  obtain ⟨-, -, hrows, hexact⟩ :=
    migrate_as_registered twiceHistory distinct_twice twice rfl false twice.memory {}
  obtain ⟨hcalls, -, -⟩ := hexact Memory.marks _ s' hkeeps hroom hfresh hrun
  refine ⟨distinct_twice, rfl, hkeeps, hroom, hfresh, hrun, hcalls, fun name hname => ?_⟩
  have hnone : twiceHistory.countP (·.has name) = 0 := by
    have hfile : (DirectoryEntry.migration?
        ⟨"1_orders.up.sql", .file (.ok (Utf8.encode "CREATE TABLE orders"))⟩) = some "1_orders" := by decide
    simp [twiceHistory, Registration.has, hfile, Ne.symm hname]
  exact Nat.le_zero.mp (hnone ▸ hrows name)

/-- **A migration that is discovered twice is run twice**, with two rows that say so. -/
theorem migrate_twice :
    let calls := (twice.migrate false).run.trace twice.memory {}
    twice.registry = .after twiceHistory ∧ (∀ registration ∈ twiceHistory, registration.Distinct) ∧
      calls.count (.exec "CREATE TABLE orders") = 2 ∧
      calls.flatMap Call.rows = [⟨"1_orders", 1, 0, 1⟩, ⟨"1_orders", 1, 0, 1⟩] := by
  refine ⟨rfl, distinct_twice, ?_⟩
  simp only [migrate, migrateLocked, status, sorted_twice]
  decide +kernel

end Migrator

end ColumnWire

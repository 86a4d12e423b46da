import ColumnWire.Proofs.Migration.Deed

/-!
# Runs that succeed

A run that succeeds has gone through every part of its plan, so what the parts have done can be
read off one after another: `Succeeds` names the calls that were made, the result, and how the
database was left. There is one lemma for each part of a migrator; those for steps and marks also
say what has become of the table, if the database keeps it.
-/
namespace ColumnWire

open Plan MarkRow

variable {α β σ ε : Type} {db : Database σ} {s s' : σ} {calls : List Call}

namespace Plan

/-- A run makes these calls, succeeds with a result, and leaves the database in a given state. -/
structure Succeeds (db : Database σ) (x : ExceptT ε Plan α) (s : σ) (calls : List Call) (a : α)
    (s' : σ) : Prop where
  run_eq : x.run.run db s = (.ok a, s')
  trace_eq : x.run.trace db s = calls

namespace Succeeds

variable {x : ExceptT ε Plan α} {f : α → ExceptT ε Plan β} {a b : α}

theorem of_pure (h : Succeeds db (pure a : ExceptT ε Plan α) s calls b s') :
    b = a ∧ s' = s ∧ calls = [] := by
  obtain ⟨hrun, htrace⟩ := h
  cases hrun
  exact ⟨rfl, rfl, htrace.symm⟩

theorem not_throw {e : ε} (h : Succeeds db (throw e : ExceptT ε Plan α) s calls b s') : False := by
  cases h.run_eq

/-- What comes one after the other has succeeded one after the other. -/
theorem of_bind {b : β} (h : Succeeds db (x >>= f) s calls b s') : ∃ a mid before after,
    Succeeds db x s before a mid ∧ Succeeds db (f a) mid after b s' ∧ calls = before ++ after := by
  have hbind : (x >>= f).run = x.run.bind (ExceptT.bindCont f) := rfl
  obtain ⟨hrun, htrace⟩ := h
  rw [hbind, run_bind] at hrun
  rw [hbind, trace_bind] at htrace
  rcases hx : x.run.run db s with ⟨e | a, mid⟩
  · rw [hx] at hrun
    cases hrun
  · rw [hx] at hrun htrace
    exact ⟨a, mid, _, _, ⟨hx, rfl⟩, ⟨hrun, rfl⟩, htrace.symm⟩

theorem of_call {call : Call} {a : call.Answer} (h : Succeeds db (Plan.call call) s calls a s') :
    db.answer call s = (.ok a, s') ∧ calls = [call] := by
  obtain ⟨hrun, htrace⟩ := h
  exact ⟨hrun, htrace.symm⟩

theorem of_now {second : Int} (h : Succeeds db (Plan.now : ExceptT ε Plan Int) s calls second s') :
    s' = s ∧ calls = [] := by
  obtain ⟨hrun, htrace⟩ := h
  cases hrun
  exact ⟨rfl, htrace.symm⟩

end Succeeds

end Plan

/-- The moment at which a migration was applied, as the table has it. -/
def Migration.moment (u : Migration) : UInt32 := .ofNat (u.appliedAt.getD 0).toNat

/-- The row that records a migration that is applied. -/
def Migration.row (u : Migration) : MarkRow := u.markRow u.moment 1

/-- A migration with what is known once it is applied as a member of a group. -/
def Migration.AppliedIn (group : Int64) (u v : Migration) : Prop :=
  ∃ moment : UInt32, v = { u with group, appliedAt := some moment.toNat }

theorem Migration.moment_eq {u : Migration} {moment : UInt32}
    (hat : u.appliedAt = some moment.toNat) : u.moment = moment := by
  rw [Migration.moment, hat]
  exact UInt32.ofNat_toNat

namespace Migrator

/-- All calls that deal with a migration: those of its step, and its mark. -/
def callsFor (m : Migrator) (o : Order) (u : Migration) : List Call :=
  Step.calls (o.step u) ++
    [.insert m.insertSql (markBlock u u.moment.toNat (if o.undo then -1 else 1))]

variable {m : Migrator} {u : Migration} {us : List Migration} {nop : Bool} {group : Int64}
  {rows : σ → List MarkRow}

/-! ## Calls -/

theorem run_require (call : Call) :
    (require call).run = .ask call fun answer => .done (answer.mapError .database) :=
  rfl

theorem succeeds_require {call : Call} {a : call.Answer}
    (h : Succeeds db (require call) s calls a s') :
    db.answer call s = (.ok a, s') ∧ calls = [call] := by
  obtain ⟨hrun, htrace⟩ := h
  rw [run_require, Plan.run] at hrun
  rw [run_require, Plan.trace] at htrace
  rcases hanswer : db.answer call s with ⟨e | a', s''⟩
  · rw [hanswer] at hrun
    cases hrun
  · rw [hanswer] at hrun htrace
    cases hrun
    exact ⟨rfl, htrace.symm⟩

theorem succeeds_outcome {x : ExceptT Error Plan α} {a : α}
    (h : Succeeds db (outcome x) s calls (.ok a) s') : Succeeds db x s calls a s' := by
  obtain ⟨hrun, htrace⟩ := h
  replace hrun : (x.run.bind fun r => .done (.ok r)).run db s = ((.ok (.ok a) : Except MigrateError _), s') := hrun
  replace htrace : (x.run.bind fun r => .done ((.ok r) : Except MigrateError _)).trace db s = calls := htrace
  rw [run_bind] at hrun
  rw [trace_bind, Plan.trace, List.append_nil] at htrace
  obtain ⟨hresult, hstate⟩ := Prod.mk.inj hrun
  exact ⟨Prod.ext (Except.ok.inj hresult) hstate, htrace⟩

/-! ## Steps -/

theorem succeeds_execAll {statements : List String}
    (h : Succeeds db (execAll statements) s calls () s') : calls = statements.map .exec := by
  induction statements generalizing s calls with
  | nil => exact h.of_pure.2.2
  | cons sql statements ih =>
    obtain ⟨_, mid, first, rest, hfirst, hrest, rfl⟩ := h.of_bind
    rw [hfirst.of_call.2, ih hrest]
    rfl

/-- **A step that succeeds has made all its calls**, and has left the table alone. -/
theorem Keeps.succeeds_runStep (hkeeps : m.Keeps db rows) {step : Option Step}
    (hknown : Step.calls step ⊆ m.registry.calls) (h : Succeeds db (runStep step) s calls () s') :
    calls = Step.calls step ∧ rows s' = rows s := by
  constructor
  · match step with
    | none => exact h.of_pure.2.2
    | some (.sql text) => exact succeeds_execAll h
    | some (.custom label) => exact h.of_call.2
  · have hstep : Meets (fun call _ t t' => call ∈ m.registry.calls → t' = t)
        (fun call _ => call ∈ m.registry.calls) (fun _ t => t = rows s) (runStep step).run (rows s) := by
      refine (meets_runStep (K := fun _ t => t = rows s) ?_ rfl).mono fun _ _ ⟨_, _, hsame⟩ => hsame
      rintro made call t hmade rfl
      have hcall : call ∈ m.registry.calls := hknown (hmade.subset (by simp))
      exact ⟨hcall, fun answer t' hsame => hsame hcall⟩
    have hrows := hstep.run fun call s _ hcall => hkeeps.steps call hcall s
    rwa [h.run_eq] at hrows

/-- If the step of a migration and its mark succeed, they have done so one after the other. -/
theorem succeeds_perform {name : String} {step : Option Step} {mark : Attempt α} {a : α}
    (h : Succeeds db (m.perform name step mark) s calls a s') : ∃ mid before after,
    Succeeds db (runStep step) s before () mid ∧ Succeeds db mark mid after a s' ∧
      calls = before ++ after := by
  obtain ⟨r, mid, before, after, hstep, hmark, rfl⟩ := h.of_bind
  cases r with
  | ok u => exact ⟨mid, before, after, succeeds_outcome hstep, hmark, rfl⟩
  | error e =>
    simp only at hmark
    split at hmark
    · exact hmark.not_throw.elim
    · obtain ⟨_, _, _, _, _, hthrow, _⟩ := hmark.of_bind
      exact hthrow.not_throw.elim

/-! ## Marks -/

/-- A mark that succeeds has added its row, with a moment that fits into the row. -/
theorem Keeps.succeeds_insertMark (hkeeps : m.Keeps db rows) {second sign : Int}
    (h : Succeeds db (m.insertMark u second sign) s calls () s') :
    ∃ moment : UInt32, second = moment.toNat ∧
      calls = [.insert m.insertSql (markBlock u moment.toNat sign)] ∧
      rows s' = rows s ++ [u.markRow moment (.ofInt sign)] := by
  unfold insertMark at h
  split at h
  · next hrange =>
    obtain ⟨hanswer, hcalls⟩ := succeeds_require h
    have hfits : second.toNat < 2 ^ 32 := by omega
    have hmoment : (UInt32.ofNat second.toNat).toNat = second.toNat := UInt32.toNat_ofNat_of_lt hfits
    refine ⟨.ofNat second.toNat, by omega, by rw [hmoment, hcalls], ?_⟩
    have hinserted := hkeeps.inserted _ _ s (carries_markBlock u second.toNat sign) (by rw [hanswer])
    rwa [hanswer] at hinserted
  · exact h.not_throw.elim

theorem Keeps.succeeds_markApplied (hkeeps : m.Keeps db rows) {v : Migration}
    (h : Succeeds db (m.markApplied u) s calls v s') :
    ∃ moment : UInt32, v = { u with appliedAt := some moment.toNat } ∧
      calls = [.insert m.insertSql (markBlock u moment.toNat 1)] ∧
      rows s' = rows s ++ [u.markRow moment 1] := by
  obtain ⟨second, mid, _, _, hnow, hrest, rfl⟩ := h.of_bind
  obtain ⟨rfl, rfl⟩ := hnow.of_now
  obtain ⟨_, mid, before, after, hinsert, hreturn, rfl⟩ := hrest.of_bind
  obtain ⟨rfl, rfl, rfl⟩ := hreturn.of_pure
  obtain ⟨moment, rfl, hcalls, hrows⟩ := hkeeps.succeeds_insertMark hinsert
  exact ⟨moment, rfl, by rw [hcalls]; rfl, hrows⟩

/-- A migration that knows its moment is marked as undone with that moment. -/
theorem Keeps.succeeds_markUnapplied (hkeeps : m.Keeps db rows) {moment : UInt32}
    (hat : u.appliedAt = some moment.toNat)
    (h : Succeeds db (m.markUnapplied u) s calls () s') :
    calls = [.insert m.insertSql (markBlock u moment.toNat (-1))] ∧
      rows s' = rows s ++ [u.markRow moment (-1)] := by
  unfold markUnapplied at h
  rw [hat] at h
  obtain ⟨moment', hsame, hcalls, hrows⟩ := hkeeps.succeeds_insertMark h
  have hmoment : moment = moment' := UInt32.toNat_inj.mp (Int.ofNat_inj.mp hsame)
  rw [hmoment]
  exact ⟨hcalls, hrows⟩

/-! ## All of them -/

theorem calls_step_subset (nop : Bool) (step : Option Step) :
    Step.calls (if nop then none else step) ⊆ Step.calls step := by
  cases nop with
  | true => exact List.nil_subset _
  | false => exact List.Subset.refl _

/-- **Migrations that are applied** have run their steps and added their rows, one after the other. -/
theorem Keeps.succeeds_applyAll (hkeeps : m.Keeps db rows) {marked : List Migration}
    (hknown : ∀ u ∈ us, Step.calls u.up ⊆ m.registry.calls)
    (h : Succeeds db (m.applyAll nop group us) s calls marked s') :
    List.Forall₂ (Migration.AppliedIn group) us marked ∧
      calls = marked.flatMap (m.callsFor ⟨false, nop⟩) ∧
      rows s' = rows s ++ marked.map Migration.row := by
  induction us generalizing s calls marked with
  | nil =>
    obtain ⟨rfl, rfl, rfl⟩ := h.of_pure
    exact ⟨.nil, rfl, (List.append_nil _).symm⟩
  | cons u us ih =>
    obtain ⟨v, _, _, _, hperform, hothers, rfl⟩ := h.of_bind
    obtain ⟨marked', _, _, _, hall, hreturn, rfl⟩ := hothers.of_bind
    obtain ⟨rfl, rfl, rfl⟩ := hreturn.of_pure
    obtain ⟨mid, _, _, hstep, hmark, rfl⟩ := succeeds_perform hperform
    have hup := List.Subset.trans (calls_step_subset nop u.up) (hknown u List.mem_cons_self)
    obtain ⟨rfl, hsame⟩ := hkeeps.succeeds_runStep hup hstep
    obtain ⟨moment, rfl, rfl, hrow⟩ := hkeeps.succeeds_markApplied hmark
    obtain ⟨happlied, rfl, hrows⟩ := ih (fun v hv => hknown v (List.mem_cons_of_mem _ hv)) hall
    have hmoment := Migration.moment_eq
      (u := { u with group, appliedAt := some (moment.toNat : Int) }) rfl
    refine ⟨.cons ⟨moment, rfl⟩ happlied, ?_, ?_⟩
    · rw [List.flatMap_cons, callsFor, hmoment, List.append_nil]
      rfl
    · rw [hrows, hrow, hsame, List.map_cons, Migration.row, hmoment, List.append_assoc]
      rfl

/-- **Migrations that are undone** have run their steps and added the opposites of their rows. -/
theorem Keeps.succeeds_undoAll (hkeeps : m.Keeps db rows)
    (hknown : ∀ u ∈ us, Step.calls u.down ⊆ m.registry.calls)
    (hat : ∀ u ∈ us, ∃ moment : UInt32, u.appliedAt = some moment.toNat)
    (h : Succeeds db (m.undoAll nop us) s calls () s') :
    calls = us.flatMap (m.callsFor ⟨true, nop⟩) ∧
      rows s' = rows s ++ us.map fun u => u.row.opposite := by
  induction us generalizing s calls with
  | nil =>
    obtain ⟨-, rfl, rfl⟩ := h.of_pure
    exact ⟨rfl, (List.append_nil _).symm⟩
  | cons u us ih =>
    obtain ⟨_, _, _, _, hperform, hothers, rfl⟩ := h.of_bind
    obtain ⟨mid, _, _, hstep, hmark, rfl⟩ := succeeds_perform hperform
    have hdown := List.Subset.trans (calls_step_subset nop u.down) (hknown u List.mem_cons_self)
    obtain ⟨rfl, hsame⟩ := hkeeps.succeeds_runStep hdown hstep
    obtain ⟨moment, hmoment⟩ := hat u List.mem_cons_self
    obtain ⟨rfl, hrow⟩ := hkeeps.succeeds_markUnapplied hmoment hmark
    obtain ⟨rfl, hrows⟩ := ih (fun v hv => hknown v (List.mem_cons_of_mem _ hv))
      (fun v hv => hat v (List.mem_cons_of_mem _ hv)) hothers
    rw [← Migration.moment_eq hmoment] at hrow ⊢
    refine ⟨rfl, ?_⟩
    rw [hrows, hrow, hsame, List.append_assoc]
    rfl

/-! ## Under the lock -/

/-- What a status says that could be had. -/
theorem Keeps.succeeds_status (hkeeps : m.Keeps db rows) {status : List Migration × Int64}
    (h : Succeeds db m.status s calls status s') :
    calls = [.query m.statusSql] ∧ rows s' = rows s ∧
      ∃ records, records.Perm ((live (rows s)).map record) ∧
        status = (m.registry.sorted.map (withRecord records), Migrations.lastGroupId records) := by
  obtain ⟨records, _, _, _, hrecords, hstatus, rfl⟩ := h.of_bind
  obtain ⟨rfl, rfl, rfl⟩ := hstatus.of_pure
  obtain ⟨blocks, _, _, _, hquery, hread, rfl⟩ := hrecords.of_bind
  obtain ⟨hanswer, rfl⟩ := succeeds_require hquery
  have hshown := hkeeps.shown blocks s (by rw [hanswer])
  rw [hanswer] at hshown
  obtain ⟨hsame, parts, hshows, hperm⟩ := hshown
  rw [readAll_eq hshows] at hread
  obtain ⟨rfl, rfl, rfl⟩ := hread.of_pure
  exact ⟨rfl, hsame, _, hperm.map record, rfl⟩

/-- What is done under the lock has succeeded between taking the lock and giving it back. -/
theorem Keeps.succeeds_locked (hkeeps : m.Keeps db rows) {body : Attempt α} {a : α}
    (h : Succeeds db (m.locked body) s calls a s') : ∃ s₁ s₂ between,
    rows s₁ = rows s ∧ Succeeds db body s₁ between a s₂ ∧ rows s' = rows s₂ ∧
      calls = .exec m.lockSql :: between ++ [.exec m.unlockSql] := by
  obtain ⟨hrun, htrace⟩ := h
  by_cases hne : m.registry.migrations = []
  · rw [locked_of_empty hne] at hrun
    cases hrun
  · rw [locked_of_ne hne, Plan.run] at hrun
    rw [locked_of_ne hne, Plan.trace] at htrace
    have hlock := hkeeps.locking m.lockSql (by simp) s
    rcases hanswer : db.answer (.exec m.lockSql) s with ⟨e | u, s₁⟩
    · rw [hanswer] at hrun
      cases hrun
    · rw [hanswer] at hrun htrace hlock
      simp only [run_bind, trace_bind, release, Plan.run, Plan.trace] at hrun htrace
      obtain ⟨hresult, rfl⟩ := Prod.mk.inj hrun
      exact ⟨s₁, _, _, hlock, ⟨Prod.ext hresult rfl, rfl⟩, hkeeps.locking m.unlockSql (by simp) _,
        htrace.symm⟩

end Migrator

end ColumnWire

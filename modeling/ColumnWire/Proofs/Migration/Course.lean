import ColumnWire.Proofs.Migration.Memory
import ColumnWire.Proofs.Migration.Success

/-!
# Runs with failures

Any call may fail, so a run may end anywhere. `Plan.log` lists the calls that were made, each with its
failure if it failed, and `Ends` says how a plan has ended that may fail. Statements are run up to the
first that fails, and migrations are dealt with up to the first whose step or mark fails: `Breaks`
names the ways in which one of them fails, and `Course` how far a sequence of them gets, whether they
are applied or undone. What a course has done to the table can be read off its log.
-/
namespace ColumnWire

open Plan MarkRow

variable {α β σ ε : Type} {db : Database σ} {s s' : σ}

/-- A call that was made, and its failure if it failed. -/
structure Made where
  call : Call
  failure : Option Error := none
deriving DecidableEq

namespace Made

/-- A call that succeeded. -/
def passed (call : Call) : Made := ⟨call, none⟩

/-- A call with what its answer says. -/
def of (call : Call) (answer : Except Error call.Answer) : Made where
  call := call
  failure :=
    match answer with
    | .ok _ => none
    | .error e => some e

/-- The rows that a call has added to the table. -/
def rows : Made → List MarkRow
  | ⟨.insert _ b, none⟩ => b.markRows
  | _ => []

end Made

namespace Plan

/-- The calls that are made, each with its failure if it fails. -/
def log (db : Database σ) : Plan α → σ → List Made
  | .done _, _ => []
  | .ask call next, s =>
    .of call (db.answer call s).1 :: log db (next (db.answer call s).1) (db.answer call s).2
  | .clock next, s => log db (next (db.second s)) s

theorem log_bind (db : Database σ) (p : Plan α) (f : α → Plan β) (s : σ) :
    (bind p f).log db s = p.log db s ++ (f (p.run db s).1).log db (p.run db s).2 := by
  induction p generalizing s with
  | done a => rfl
  | ask call next ih => simp [bind, run, log, ih]
  | clock next ih => simp [bind, run, log, ih]

/-- A plan that may fail ends like this: the calls it has made, its result or its failure, and how the
database is left. -/
structure Ends (db : Database σ) (x : ExceptT ε Plan α) (s : σ) (log : List Made) (r : Except ε α)
    (s' : σ) : Prop where
  run_eq : x.run.run db s = (r, s')
  log_eq : x.run.log db s = log

namespace Ends

variable {x : ExceptT ε Plan α} {f : α → ExceptT ε Plan β} {log : List Made} {r : Except ε α}

theorem of_pure {a : α} (h : Ends db (pure a : ExceptT ε Plan α) s log r s') :
    r = .ok a ∧ s' = s ∧ log = [] := by
  obtain ⟨hrun, hlog⟩ := h
  cases hrun
  exact ⟨rfl, rfl, hlog.symm⟩

theorem of_throw {e : ε} (h : Ends db (throw e : ExceptT ε Plan α) s log r s') :
    r = .error e ∧ s' = s ∧ log = [] := by
  obtain ⟨hrun, hlog⟩ := h
  cases hrun
  exact ⟨rfl, rfl, hlog.symm⟩

/-- Either the first part fails and is all there is, or it succeeds and the second part follows. -/
theorem of_bind {r : Except ε β} (h : Ends db (x >>= f) s log r s') :
    (∃ e, Ends db x s log (.error e) s' ∧ r = .error e) ∨
      ∃ a mid before after, Ends db x s before (.ok a) mid ∧ Ends db (f a) mid after r s' ∧
        log = before ++ after := by
  have hbind : (x >>= f).run = x.run.bind (ExceptT.bindCont f) := rfl
  obtain ⟨hrun, hlog⟩ := h
  rw [hbind, run_bind] at hrun
  rw [hbind, log_bind] at hlog
  rcases hx : x.run.run db s with ⟨e | a, mid⟩
  · rw [hx] at hrun hlog
    cases hrun
    exact .inl ⟨e, ⟨hx, hlog ▸ (List.append_nil _).symm⟩, rfl⟩
  · rw [hx] at hrun hlog
    exact .inr ⟨a, mid, _, _, ⟨hx, rfl⟩, ⟨hrun, rfl⟩, hlog.symm⟩

theorem of_call {call : Call} {r : Except Error call.Answer}
    (h : Ends db (Plan.call call) s log r s') : db.answer call s = (r, s') ∧ log = [.of call r] := by
  obtain ⟨hrun, hlog⟩ := h
  have hanswer : db.answer call s = (r, s') := hrun
  refine ⟨hanswer, hlog ▸ ?_⟩
  show [Made.of call (db.answer call s).1] = _
  rw [hanswer]

theorem of_now {r : Except ε Int} (h : Ends db (Plan.now : ExceptT ε Plan Int) s log r s') :
    r = .ok (db.second s) ∧ s' = s ∧ log = [] := by
  obtain ⟨hrun, hlog⟩ := h
  cases hrun
  exact ⟨rfl, rfl, hlog.symm⟩

end Ends

end Plan

/-- The calls of a step up to one that fails. -/
def Step.FailsWith (step : Option Step) (e : Error) (log : List Made) : Prop :=
  ∃ before call after, Step.calls step = before ++ call :: after ∧
    log = before.map .passed ++ [⟨call, some e⟩]

theorem Step.FailsWith.mem {step : Option Step} {e : Error} {log : List Made} {made : Made}
    (h : Step.FailsWith step e log) (hmade : made ∈ log) : made.call ∈ Step.calls step := by
  obtain ⟨before, call, after, hcalls, rfl⟩ := h
  rw [hcalls]
  rcases List.mem_append.mp hmade with hbefore | hlast
  · obtain ⟨call', hcall', rfl⟩ := List.mem_map.mp hbefore
    exact List.mem_append_left _ hcall'
  · rw [List.mem_singleton.mp hlast]
    exact List.mem_append_right _ List.mem_cons_self

namespace Migrator

variable {m : Migrator} {o : Order} {u v : Migration} {log : List Made} {nop : Bool} {group : Int64}
  {rows : σ → List MarkRow}

/-! ## Calls and steps -/

theorem ends_require {call : Call} {r : Except MigrateError call.Answer}
    (h : Ends db (require call) s log r s') : ∃ answer, db.answer call s = (answer, s') ∧
      r = answer.mapError .database ∧ log = [.of call answer] := by
  obtain ⟨hrun, hlog⟩ := h
  rw [run_require, Plan.run] at hrun
  obtain ⟨hresult, hstate⟩ := Prod.mk.inj hrun
  exact ⟨_, Prod.ext rfl hstate, hresult.symm, hlog.symm⟩

theorem ends_outcome {x : ExceptT Error Plan α} {r : Except MigrateError (Except Error α)}
    (h : Ends db (outcome x) s log r s') : ∃ r', r = .ok r' ∧ Ends db x s log r' s' := by
  obtain ⟨hrun, hlog⟩ := h
  have hbind : (outcome x).run = x.run.bind fun r => .done (.ok r) := rfl
  rw [hbind, run_bind] at hrun
  rw [hbind, log_bind, Plan.log, List.append_nil] at hlog
  obtain ⟨hresult, hstate⟩ := Prod.mk.inj hrun
  exact ⟨_, hresult.symm, Prod.ext rfl hstate, hlog⟩

/-- Statements are run up to the first that fails. -/
theorem ends_execAll {statements : List String} {r : Except Error Unit}
    (h : Ends db (execAll statements) s log r s') :
    (r = .ok () ∧ log = (statements.map .exec).map .passed) ∨
      ∃ e before call after, r = .error e ∧ statements.map .exec = before ++ call :: after ∧
        log = before.map .passed ++ [⟨call, some e⟩] := by
  induction statements generalizing s log with
  | nil =>
    obtain ⟨rfl, -, rfl⟩ := h.of_pure
    exact .inl ⟨rfl, rfl⟩
  | cons sql statements ih =>
    rcases h.of_bind with ⟨e, hfirst, rfl⟩ | ⟨a, mid, first, others, hfirst, hothers, rfl⟩
    · exact .inr ⟨e, [], .exec sql, statements.map .exec, rfl, rfl, hfirst.of_call.2⟩
    · obtain ⟨-, rfl⟩ := hfirst.of_call
      rcases ih hothers with ⟨rfl, rfl⟩ | ⟨e, before, call, after, rfl, hsplit, rfl⟩
      · exact .inl ⟨rfl, rfl⟩
      · refine .inr ⟨e, .exec sql :: before, call, after, rfl, ?_, rfl⟩
        rw [List.map_cons, hsplit, List.cons_append]

/-- A step makes all its calls, or those up to one that fails. -/
theorem ends_runStep {step : Option Step} {r : Except Error Unit}
    (h : Ends db (runStep step) s log r s') :
    (r = .ok () ∧ log = (Step.calls step).map .passed) ∨
      ∃ e, r = .error e ∧ Step.FailsWith step e log := by
  match step with
  | none =>
    obtain ⟨rfl, -, rfl⟩ := h.of_pure
    exact .inl ⟨rfl, rfl⟩
  | some (.sql text) =>
    rcases ends_execAll h with hall | ⟨e, before, call, after, hr, hsplit, hlog⟩
    · exact .inl hall
    · exact .inr ⟨e, hr, before, call, after, hsplit, hlog⟩
  | some (.custom label) =>
    obtain ⟨-, rfl⟩ := h.of_call
    cases r with
    | ok a => exact .inl ⟨rfl, rfl⟩
    | error e => exact .inr ⟨e, rfl, [], .custom label, [], rfl, rfl⟩

/-! ## Marks -/

/-- The call that marks a migration as dealt with. -/
def markCall (m : Migrator) (o : Order) (u : Migration) : Call :=
  .insert m.insertSql (markBlock u u.moment.toNat (if o.undo then -1 else 1))

theorem callsFor_eq (m : Migrator) (o : Order) (u : Migration) :
    m.callsFor o u = Step.calls (o.step u) ++ [m.markCall o u] := rfl

/-- The row that marks a migration as dealt with. -/
def markRowOf (o : Order) (u : Migration) : MarkRow := if o.undo then u.row.opposite else u.row

/-- A mark is one call, whose failure is that of the mark. -/
def MarksAs (m : Migrator) (o : Order) (v : Migration) (a : α) (log : List Made)
    (r : Except MigrateError α) : Prop :=
  (r = .ok a ∧ log = [.passed (m.markCall o v)]) ∨
    ∃ e, r = .error (.database e) ∧ log = [⟨m.markCall o v, some e⟩]

theorem ends_insertMark {r : Except MigrateError Unit} {moment : UInt32}
    (hat : u.appliedAt = some moment.toNat)
    (h : Ends db (m.insertMark u moment.toNat (if o.undo then -1 else 1)) s log r s') :
    m.MarksAs o u () log r := by
  have hrange : (0 : Int) ≤ moment.toNat ∧ (moment.toNat : Int) < 4294967296 := by
    have := moment.toNat_lt
    omega
  rw [insertMark, if_pos hrange] at h
  obtain ⟨answer, -, rfl, rfl⟩ := ends_require h
  have hcall : m.markCall o u =
      .insert m.insertSql (markBlock u (moment.toNat : Int).toNat (if o.undo then -1 else 1)) := by
    rw [markCall, Migration.moment_eq hat]
    rfl
  rw [MarksAs, hcall]
  cases answer with
  | ok a => exact .inl ⟨rfl, rfl⟩
  | error e => exact .inr ⟨e, rfl, rfl⟩

/-- A migration is marked as applied at the moment that the clock tells. -/
theorem ends_markApplied {r : Except MigrateError Migration}
    (hclock : ∀ s, 0 ≤ db.second s ∧ db.second s < 4294967296)
    (h : Ends db (m.markApplied u) s log r s') : ∃ moment : UInt32,
      let v := { u with appliedAt := some (moment.toNat : Int) }
      m.MarksAs ⟨false, nop⟩ v v log r := by
  obtain ⟨moment, hmoment⟩ : ∃ moment : UInt32, db.second s = moment.toNat := by
    obtain ⟨hlow, hhigh⟩ := hclock s
    have hfits : (db.second s).toNat < 2 ^ 32 := by omega
    have hsame : (UInt32.ofNat (db.second s).toNat).toNat = (db.second s).toNat :=
      UInt32.toNat_ofNat_of_lt hfits
    exact ⟨.ofNat (db.second s).toNat, by rw [hsame, Int.toNat_of_nonneg hlow]⟩
  refine ⟨moment, ?_⟩
  rcases h.of_bind with ⟨e, hnow, rfl⟩ | ⟨second, mid, _, _, hnow, hrest, rfl⟩
  · cases hnow.of_now.1
  · obtain ⟨hsecond, rfl, rfl⟩ := hnow.of_now
    obtain rfl : second = moment.toNat := (Except.ok.inj hsecond).trans hmoment
    rcases hrest.of_bind with ⟨e, hinsert, rfl⟩ | ⟨_, mid, _, _, hinsert, hreturn, rfl⟩
    · rcases ends_insertMark (o := ⟨false, nop⟩) rfl hinsert with ⟨hr, -⟩ | ⟨e', hr, hlog⟩
      · cases hr
      · cases hr
        exact .inr ⟨e', rfl, hlog⟩
    · obtain ⟨rfl, -, rfl⟩ := hreturn.of_pure
      rcases ends_insertMark (o := ⟨false, nop⟩) rfl hinsert with ⟨-, hlog⟩ | ⟨e', hr, -⟩
      · rw [List.append_nil]
        exact .inl ⟨rfl, hlog⟩
      · cases hr

/-- A migration that knows its moment is marked as undone with that moment. -/
theorem ends_markUnapplied {r : Except MigrateError Unit} {moment : UInt32}
    (hat : u.appliedAt = some moment.toNat) (h : Ends db (m.markUnapplied u) s log r s') :
    m.MarksAs ⟨true, nop⟩ u () log r := by
  unfold markUnapplied at h
  rw [hat] at h
  exact ends_insertMark hat h

/-! ## One migration -/

/-- The ways in which dealing with a migration fails: what the calls come to, whether the migration
is marked all the same, and the failure that is reported. -/
inductive Breaks (m : Migrator) (o : Order) (u : Migration) : List Made → Bool → MigrateError → Prop
  /-- The step fails, and only success counts, so no mark is tried. -/
  | skipped {e : Error} {log : List Made} (hstep : Step.FailsWith (o.step u) e log)
      (honly : m.applyOnSuccess = true) : Breaks m o u log false (.step u.name e)
  /-- The step fails, but the mark succeeds. -/
  | marked {e : Error} {log : List Made} (hstep : Step.FailsWith (o.step u) e log)
      (hany : m.applyOnSuccess = false) :
      Breaks m o u (log ++ [.passed (m.markCall o u)]) true (.step u.name e)
  /-- The step fails, and so does the mark. -/
  | unmarked {e e' : Error} {log : List Made} (hstep : Step.FailsWith (o.step u) e log)
      (hany : m.applyOnSuccess = false) :
      Breaks m o u (log ++ [⟨m.markCall o u, some e'⟩]) false (.database e')
  /-- The step succeeds, but the mark fails. -/
  | refused {e : Error} :
      Breaks m o u ((Step.calls (o.step u)).map .passed ++ [⟨m.markCall o u, some e⟩]) false (.database e)

/-- A migration only breaks at a call that fails. -/
theorem Breaks.fails {isMarked : Bool} {e : MigrateError} (h : m.Breaks o u log isMarked e) :
    ∃ made ∈ log, made.failure ≠ none := by
  have hstep {e : Error} {log : List Made} (h : Step.FailsWith (o.step u) e log) :
      ∃ made ∈ log, made.failure ≠ none := by
    obtain ⟨before, call, after, -, rfl⟩ := h
    exact ⟨⟨call, some e⟩, by simp, by simp⟩
  cases h with
  | skipped hfails honly => exact hstep hfails
  | marked hfails hany | unmarked hfails hany =>
    obtain ⟨made, hmade, hfailure⟩ := hstep hfails
    exact ⟨made, List.mem_append_left _ hmade, hfailure⟩
  | @refused e => exact ⟨⟨m.markCall o u, some e⟩, by simp, by simp⟩

/-- A migration is dealt with, or it breaks in one of the ways that there are. -/
theorem ends_perform (As : Migration → Prop) (value : Migration → α) {name : String}
    {step : Option Step} {mark : Attempt α} {r : Except MigrateError α} (has : ∃ v, As v)
    (hsame : ∀ v, As v → v.name = name ∧ o.step v = step)
    (hmark : ∀ s log r s', Ends db mark s log r s' → ∃ v, As v ∧ m.MarksAs o v (value v) log r)
    (h : Ends db (m.perform name step mark) s log r s') : ∃ v, As v ∧
      ((r = .ok (value v) ∧ log = (m.callsFor o v).map .passed) ∨
        ∃ marked e, r = .error e ∧ m.Breaks o v log marked e) := by
  rcases h.of_bind with ⟨e, houtcome, rfl⟩ | ⟨r', mid, before, after, houtcome, hrest, rfl⟩
  · obtain ⟨_, hr, -⟩ := ends_outcome houtcome
    cases hr
  · obtain ⟨_, hr, hstep⟩ := ends_outcome houtcome
    obtain rfl := Except.ok.inj hr
    -- Behind a step that failed, a mark that succeeds still reports the step, while one that fails
    -- hides it; so every outcome of the step meets every outcome of the mark.
    rcases ends_runStep hstep with ⟨rfl, rfl⟩ | ⟨e, rfl, hfails⟩
    · obtain ⟨v, hv, hmarks⟩ := hmark _ _ _ _ hrest
      obtain ⟨-, rfl⟩ := hsame v hv
      refine ⟨v, hv, ?_⟩
      rcases hmarks with ⟨rfl, rfl⟩ | ⟨e, rfl, rfl⟩
      · refine .inl ⟨rfl, ?_⟩
        rw [callsFor_eq, List.map_append]
        rfl
      · exact .inr ⟨false, _, rfl, .refused⟩
    · simp only at hrest
      split at hrest
      · next honly =>
        obtain ⟨rfl, -, rfl⟩ := hrest.of_throw
        obtain ⟨v, hv⟩ := has
        obtain ⟨rfl, rfl⟩ := hsame v hv
        rw [List.append_nil]
        exact ⟨v, hv, .inr ⟨false, _, rfl, .skipped hfails honly⟩⟩
      · next hany =>
        have hany : m.applyOnSuccess = false := by simpa using hany
        rcases hrest.of_bind with ⟨e', hmarking, rfl⟩ | ⟨a, mid', _, _, hmarking, hthrow, rfl⟩
        · obtain ⟨v, hv, hmarks⟩ := hmark _ _ _ _ hmarking
          obtain ⟨rfl, rfl⟩ := hsame v hv
          rcases hmarks with ⟨hr, -⟩ | ⟨e'', hr, rfl⟩
          · cases hr
          · cases hr
            exact ⟨v, hv, .inr ⟨false, _, rfl, .unmarked hfails hany⟩⟩
        · obtain ⟨rfl, -, rfl⟩ := hthrow.of_throw
          obtain ⟨v, hv, hmarks⟩ := hmark _ _ _ _ hmarking
          obtain ⟨rfl, rfl⟩ := hsame v hv
          rcases hmarks with ⟨-, rfl⟩ | ⟨e'', hr, -⟩
          · rw [List.append_nil]
            exact ⟨v, hv, .inr ⟨true, _, rfl, .marked hfails hany⟩⟩
          · cases hr

theorem ends_applyOne {r : Except MigrateError Migration}
    (hclock : ∀ s, 0 ≤ db.second s ∧ db.second s < 4294967296)
    (h : Ends db (m.perform u.name (if nop then none else u.up) (m.markApplied { u with group }))
      s log r s') : ∃ v, u.AppliedIn group v ∧
      ((r = .ok v ∧ log = (m.callsFor ⟨false, nop⟩ v).map .passed) ∨
        ∃ marked e, r = .error e ∧ m.Breaks ⟨false, nop⟩ v log marked e) := by
  refine ends_perform (u.AppliedIn group) id ⟨_, 0, rfl⟩ ?_ (fun s log r s' hmark => ?_) h
  · rintro v ⟨moment, rfl⟩
    exact ⟨rfl, rfl⟩
  · obtain ⟨moment, hmarks⟩ := ends_markApplied hclock hmark
    exact ⟨_, ⟨moment, rfl⟩, hmarks⟩

theorem ends_undoOne {r : Except MigrateError Unit} {moment : UInt32}
    (hat : u.appliedAt = some moment.toNat)
    (h : Ends db (m.perform u.name (if nop then none else u.down) (m.markUnapplied u)) s log r s') :
    ∃ v, u = v ∧ ((r = .ok () ∧ log = (m.callsFor ⟨true, nop⟩ v).map .passed) ∨
      ∃ marked e, r = .error e ∧ m.Breaks ⟨true, nop⟩ v log marked e) := by
  refine ends_perform (u = ·) (fun _ => ()) ⟨_, rfl⟩ ?_ (fun s log r s' hmark => ?_) h
  · rintro v rfl
    exact ⟨rfl, rfl⟩
  · exact ⟨u, rfl, ends_markUnapplied hat hmark⟩

/-! ## Migrations in order -/

/-- How far migrations get that are dealt with in order, each as one that `As` relates it to: what the
calls come to, which migrations are marked, and the failure with which it ends early. -/
inductive Course (m : Migrator) (o : Order) (As : Migration → Migration → Prop) :
    List Migration → List Made → List Migration → Option MigrateError → Prop
  | nil : Course m o As [] [] [] none
  | cons {u v : Migration} {us : List Migration} {log : List Made} {marked : List Migration}
      {failure : Option MigrateError} (has : As u v) (hrest : Course m o As us log marked failure) :
      Course m o As (u :: us) ((m.callsFor o v).map .passed ++ log) (v :: marked) failure
  | stop {u v : Migration} {us : List Migration} {log : List Made} {isMarked : Bool} {e : MigrateError}
      (has : As u v) (hbreaks : m.Breaks o v log isMarked e) :
      Course m o As (u :: us) log (if isMarked then [v] else []) (some e)

variable {As : Migration → Migration → Prop} {us marked : List Migration} {failure : Option MigrateError}

/-- **Migrations are applied in order** up to the first that breaks. -/
theorem ends_applyAll {r : Except MigrateError (List Migration)}
    (hclock : ∀ s, 0 ≤ db.second s ∧ db.second s < 4294967296)
    (h : Ends db (m.applyAll nop group us) s log r s') : ∃ marked failure,
      m.Course ⟨false, nop⟩ (Migration.AppliedIn group) us log marked failure ∧
        r = match failure with
          | none => .ok marked
          | some e => .error e := by
  induction us generalizing s log r with
  | nil =>
    obtain ⟨rfl, -, rfl⟩ := h.of_pure
    exact ⟨[], none, .nil, rfl⟩
  | cons u us ih =>
    rcases h.of_bind with ⟨e, hperform, rfl⟩ | ⟨v, mid, _, _, hperform, hothers, rfl⟩
    · obtain ⟨v, hv, ⟨hr, -⟩ | ⟨isMarked, e', hr, hbreaks⟩⟩ := ends_applyOne hclock hperform
      · cases hr
      · cases hr
        exact ⟨_, some e, .stop hv hbreaks, rfl⟩
    · obtain ⟨v', hv, ⟨hr, rfl⟩ | ⟨_, _, hr, -⟩⟩ := ends_applyOne hclock hperform
      · obtain rfl : v = v' := Except.ok.inj hr
        rcases hothers.of_bind with ⟨e, hall, rfl⟩ | ⟨vs, mid', _, _, hall, hreturn, rfl⟩
        · obtain ⟨marked, failure, hcourse, hr⟩ := ih hall
          cases failure with
          | none => cases hr
          | some e' => exact ⟨_, some e', .cons hv hcourse, hr⟩
        · obtain ⟨rfl, rfl, rfl⟩ := hreturn.of_pure
          obtain ⟨marked, failure, hcourse, hr⟩ := ih hall
          cases failure with
          | none =>
            obtain rfl := Except.ok.inj hr
            rw [List.append_nil]
            exact ⟨_, none, .cons hv hcourse, rfl⟩
          | some e' => cases hr
      · cases hr

/-- **Migrations are undone in order** up to the first that breaks. -/
theorem ends_undoAll {r : Except MigrateError Unit}
    (hat : ∀ u ∈ us, ∃ moment : UInt32, u.appliedAt = some moment.toNat)
    (h : Ends db (m.undoAll nop us) s log r s') : ∃ marked failure,
      m.Course ⟨true, nop⟩ (· = ·) us log marked failure ∧
        r = match failure with
          | none => .ok ()
          | some e => .error e := by
  induction us generalizing s log r with
  | nil =>
    obtain ⟨rfl, -, rfl⟩ := h.of_pure
    exact ⟨[], none, .nil, rfl⟩
  | cons u us ih =>
    obtain ⟨moment, hmoment⟩ := hat u List.mem_cons_self
    have hrest := fun v hv => hat v (List.mem_cons_of_mem _ hv)
    rcases h.of_bind with ⟨e, hperform, rfl⟩ | ⟨_, mid, _, _, hperform, hothers, rfl⟩
    · obtain ⟨v, hv, ⟨hr, -⟩ | ⟨isMarked, e', hr, hbreaks⟩⟩ := ends_undoOne hmoment hperform
      · cases hr
      · cases hr
        exact ⟨_, some e, .stop hv hbreaks, rfl⟩
    · obtain ⟨v, hv, ⟨-, rfl⟩ | ⟨_, _, hr, -⟩⟩ := ends_undoOne hmoment hperform
      · obtain ⟨marked, failure, hcourse, rfl⟩ := ih hrest hothers
        exact ⟨_, failure, .cons hv hcourse, rfl⟩
      · cases hr

namespace Course

/-- Those in front are dealt with; either they are all, or the next one breaks. -/
theorem split (h : m.Course o As us log marked failure) : ∃ done rest dealt tail extra,
    us = done ++ rest ∧ List.Forall₂ As done dealt ∧
      log = (dealt.flatMap (m.callsFor o)).map .passed ++ tail ∧ marked = dealt ++ extra ∧
      ((rest = [] ∧ tail = [] ∧ extra = [] ∧ failure = none) ∨
        ∃ u v later isMarked e, rest = u :: later ∧ As u v ∧ m.Breaks o v tail isMarked e ∧
          extra = (if isMarked then [v] else []) ∧ failure = some e) := by
  induction h with
  | nil => exact ⟨[], [], [], [], [], rfl, .nil, rfl, rfl, .inl ⟨rfl, rfl, rfl, rfl⟩⟩
  | @cons u v us log marked failure has hrest ih =>
    obtain ⟨done, rest, dealt, tail, extra, rfl, hdealt, rfl, rfl, hend⟩ := ih
    refine ⟨u :: done, rest, v :: dealt, tail, extra, rfl, .cons has hdealt, ?_, rfl, hend⟩
    rw [List.flatMap_cons, List.map_append, List.append_assoc]
  | @stop u v us log isMarked e has hbreaks =>
    exact ⟨[], u :: us, [], log, _, rfl, .nil, rfl, rfl,
      .inr ⟨u, v, us, isMarked, e, rfl, has, hbreaks, rfl, rfl⟩⟩

end Course

/-! ## Under the lock -/

/-- In this state a status shows the live rows of such a table, in some order and in blocks cut
anywhere. -/
def Shown (m : Migrator) (db : Database σ) (s : σ) (marks : List MarkRow) : Prop :=
  ∀ blocks, (db.answer (.query m.statusSql) s).1 = .ok blocks →
    ∃ parts, List.Forall₂ Block.Shows blocks parts ∧ parts.flatten.Perm (live marks)

theorem Keeps.shown_locked (hkeeps : m.Keeps db rows) (s : σ) :
    m.Shown db (db.answer (.exec m.lockSql) s).2 (rows s) := by
  intro blocks hanswer
  have hlock : rows (db.answer (.exec m.lockSql) s).2 = rows s := hkeeps.locking m.lockSql (by simp) s
  rw [← hlock]
  exact (hkeeps.shown blocks _ hanswer).2

theorem ends_records {marks : List MarkRow} {r : Except MigrateError (List Migration)}
    (hshown : m.Shown db s marks) (h : Ends db m.records s log r s') :
    (∃ e, r = .error (.database e) ∧ log = [⟨.query m.statusSql, some e⟩]) ∨
      ∃ records, records.Perm ((live marks).map record) ∧ r = .ok records ∧
        log = [.passed (.query m.statusSql)] := by
  rcases h.of_bind with ⟨e, hquery, rfl⟩ | ⟨blocks, mid, _, _, hquery, hread, rfl⟩
  · obtain ⟨answer, -, hr, rfl⟩ := ends_require hquery
    cases answer with
    | ok blocks => cases hr
    | error e =>
      cases hr
      exact .inl ⟨e, rfl, rfl⟩
  · obtain ⟨answer, hanswer, hr, rfl⟩ := ends_require hquery
    cases answer with
    | error e => cases hr
    | ok blocks =>
      cases hr
      obtain ⟨parts, hshows, hperm⟩ := hshown blocks (by rw [hanswer])
      rw [readAll_eq hshows] at hread
      obtain ⟨rfl, -, rfl⟩ := hread.of_pure
      exact .inr ⟨_, hperm.map record, rfl, rfl⟩

/-- The status cannot be had, or it is that of the table. -/
theorem ends_status {marks : List MarkRow} {r : Except MigrateError (List Migration × Int64)}
    (hshown : m.Shown db s marks) (h : Ends db m.status s log r s') :
    (∃ e, r = .error (.database e) ∧ log = [⟨.query m.statusSql, some e⟩]) ∨
      ∃ records, records.Perm ((live marks).map record) ∧
        r = .ok (m.registry.sorted.map (withRecord records), Migrations.lastGroupId records) ∧
        log = [.passed (.query m.statusSql)] := by
  rcases h.of_bind with ⟨e, hrec, rfl⟩ | ⟨found, mid, _, _, hrec, hreturn, rfl⟩
  · rcases ends_records hshown hrec with ⟨e', hr, hlog⟩ | ⟨_, _, hr, -⟩
    · cases hr
      exact .inl ⟨e', rfl, hlog⟩
    · cases hr
  · obtain ⟨rfl, -, rfl⟩ := hreturn.of_pure
    rcases ends_records hshown hrec with ⟨_, hr, -⟩ | ⟨_, hperm, hr, rfl⟩
    · cases hr
    · cases hr
      exact .inr ⟨found, hperm, rfl, rfl⟩

/-- What follows a status goes by that of the table. -/
theorem ends_status_bind {marks : List MarkRow} {f : List Migration × Int64 → Attempt α}
    {r : Except MigrateError α} (hshown : m.Shown db s marks) (h : Ends db (m.status >>= f) s log r s') :
    (∃ e, log = [⟨.query m.statusSql, some e⟩]) ∨
      ∃ records mid rest, records.Perm ((live marks).map record) ∧
        Ends db (f (m.registry.sorted.map (withRecord records), Migrations.lastGroupId records))
          mid rest r s' ∧
        log = .passed (.query m.statusSql) :: rest := by
  rcases h.of_bind with ⟨e, hstatus, rfl⟩ | ⟨status, mid, _, rest, hstatus, hrest, rfl⟩
  · rcases ends_status hshown hstatus with ⟨e', -, hlog⟩ | ⟨_, _, hr, -⟩
    · exact .inl ⟨e', hlog⟩
    · cases hr
  · rcases ends_status hshown hstatus with ⟨e, hr, -⟩ | ⟨records, hrecords, hr, rfl⟩
    · cases hr
    · cases hr
      exact .inr ⟨records, mid, rest, hrecords, hrest, rfl⟩

/-- Nothing is registered, or the lock cannot be had, or all is done between taking the lock and giving
it back. -/
theorem ends_locked {body : Attempt α} {r : Except MigrateError α} (h : Ends db (m.locked body) s log r s') :
    (log = [] ∧ r = .error .noMigrations) ∨
      (∃ e, log = [⟨.exec m.lockSql, some e⟩] ∧ r = .error (.alreadyLocked e)) ∨
      ∃ between mid given, Ends db body (db.answer (.exec m.lockSql) s).2 between r mid ∧
        log = .passed (.exec m.lockSql) :: between ++ [⟨.exec m.unlockSql, given⟩] := by
  obtain ⟨hrun, hlog⟩ := h
  by_cases hne : m.registry.migrations = []
  · rw [locked_of_empty hne] at hrun hlog
    cases hrun
    exact .inl ⟨hlog.symm, rfl⟩
  · rw [locked_of_ne hne, Plan.run] at hrun
    rw [locked_of_ne hne, Plan.log] at hlog
    rcases hanswer : db.answer (.exec m.lockSql) s with ⟨e | u, s₁⟩
    · rw [hanswer] at hrun hlog
      cases hrun
      exact .inr (.inl ⟨e, hlog.symm, rfl⟩)
    · rw [hanswer] at hrun hlog
      simp only [run_bind, release, Plan.run] at hrun
      simp only [log_bind, release, Plan.log] at hlog
      obtain ⟨hresult, -⟩ := Prod.mk.inj hrun
      exact .inr (.inr ⟨_, _, _, ⟨Prod.ext hresult rfl, rfl⟩, hlog.symm⟩)

/-! ## What has become of the table -/

/-- The calls that deal with no migration. -/
def framing (m : Migrator) : List Call := [.exec m.lockSql, .query m.statusSql, .exec m.unlockSql]

/-- The calls that a migrator makes. -/
def Regular (m : Migrator) (call : Call) : Prop :=
  call ∈ m.framing ∨ call ∈ m.registry.calls ∨
    ∃ u second sign, call = .insert m.insertSql (markBlock u second sign)

/-- Calls that deal with a registered migration are made by its migrator. -/
theorem regular_of_callsFor {call : Call} (hcall : call ∈ m.callsFor o v)
    (hu : u ∈ m.registry.migrations) (hup : v.up = u.up) (hdown : v.down = u.down) : m.Regular call := by
  rw [callsFor_eq] at hcall
  rcases List.mem_append.mp hcall with hstep | hmark
  · refine .inr (.inl (List.mem_flatMap.mpr ⟨u, hu, ?_⟩))
    rw [Order.step, hup, hdown] at hstep
    have hmem := calls_step_subset o.nop _ hstep
    split at hmem
    · exact List.mem_append_right _ hmem
    · exact List.mem_append_left _ hmem
  · exact .inr (.inr ⟨_, _, _, List.mem_singleton.mp hmark⟩)

theorem rows_of_step {call : Call} {step : Option Step} (hcall : call ∈ Step.calls step)
    (failure : Option Error) : Made.rows ⟨call, failure⟩ = [] := by
  match step with
  | none => cases hcall
  | some (.sql text) =>
    obtain ⟨sql, -, rfl⟩ := List.mem_map.mp hcall
    rfl
  | some (.custom label) =>
    obtain rfl := List.mem_singleton.mp hcall
    rfl

theorem rows_of_framing {made : Made} (h : made.call ∈ m.framing) : made.rows = [] := by
  obtain ⟨call, failure⟩ := made
  simp only [framing, List.mem_cons, List.not_mem_nil, or_false] at h
  rcases h with rfl | rfl | rfl <;> rfl

/-- A call adds its rows to a table that is kept, and changes nothing else about it. -/
theorem Keeps.rows_answer (hkeeps : m.Keeps db rows) {call : Call} (hcall : m.Regular call) (s : σ) :
    rows (db.answer call s).2 = rows s ++ (Made.of call (db.answer call s).1).rows := by
  rcases hcall with hfixed | hstep | ⟨u, second, sign, rfl⟩
  · rw [rows_of_framing hfixed, List.append_nil]
    simp only [framing, List.mem_cons, List.not_mem_nil, or_false] at hfixed
    rcases hfixed with rfl | rfl | rfl
    · exact hkeeps.locking m.lockSql (by simp) s
    · cases hanswer : (db.answer (.query m.statusSql) s).1 with
      | ok blocks => exact (hkeeps.shown blocks s hanswer).1
      | error e => exact hkeeps.failed _ s e hanswer
    · exact hkeeps.locking m.unlockSql (by simp) s
  · obtain ⟨step, hmem⟩ := exists_step hstep
    have hnone : (Made.of call (db.answer call s).1).rows = [] := rows_of_step hmem _
    rw [hnone, hkeeps.steps call hstep s, List.append_nil]
  · have hcarries := carries_markBlock u second sign
    cases hanswer : (db.answer (.insert m.insertSql (markBlock u second sign)) s).1 with
    | ok a =>
      have hadded : (Made.of (.insert m.insertSql (markBlock u second sign)) (.ok a)).rows =
          [u.markRow (.ofNat second) (.ofInt sign)] := hcarries.markRows_eq
      rw [hadded]
      exact hkeeps.inserted _ _ s hcarries hanswer
    | error e => exact (hkeeps.failed _ s e hanswer).trans (List.append_nil _).symm

/-- **The log tells what has been added to the table.** -/
theorem Keeps.rows_run (hkeeps : m.Keeps db rows) {p : Plan α}
    (hcalls : ∀ made ∈ p.log db s, m.Regular made.call) :
    rows (p.run db s).2 = rows s ++ (p.log db s).flatMap Made.rows := by
  induction p generalizing s with
  | done a => exact (List.append_nil _).symm
  | ask call next ih =>
    rw [Plan.log] at hcalls ⊢
    obtain ⟨hfirst, hrest⟩ := List.forall_mem_cons.mp hcalls
    have hcall : m.Regular call := hfirst
    rw [Plan.run, ih _ hrest, hkeeps.rows_answer hcall s, List.flatMap_cons, List.append_assoc]
  | clock next ih => exact ih _ hcalls

/-- A run that deals with no migration leaves the table as it is. -/
theorem Keeps.rows_framing (hkeeps : m.Keeps db rows) {p : Plan α}
    (hcalls : ∀ made ∈ p.log db s, made.call ∈ m.framing) : rows (p.run db s).2 = rows s := by
  have hnone : (p.log db s).flatMap Made.rows = [] := by
    rw [List.flatMap_eq_nil_iff]
    exact fun made hmade => rows_of_framing (hcalls made hmade)
  rw [hkeeps.rows_run fun made hmade => .inl (hcalls made hmade), hnone, List.append_nil]

/-- Taking the lock, asking for the status and giving the lock back add nothing to the table. -/
theorem Keeps.rows_locked (hkeeps : m.Keeps db rows) {p : Plan α} {between : List Made}
    {given : Option Error} (hcalls : ∀ made ∈ between, m.Regular made.call)
    (hlog : p.log db s = .passed (.exec m.lockSql) :: .passed (.query m.statusSql) :: between ++
      [⟨.exec m.unlockSql, given⟩]) :
    rows (p.run db s).2 = rows s ++ between.flatMap Made.rows := by
  have hall : ∀ made ∈ p.log db s, m.Regular made.call := by
    rw [hlog]
    simp only [List.cons_append, List.forall_mem_cons, List.forall_mem_append]
    exact ⟨.inl (by simp [framing, Made.passed]), .inl (by simp [framing, Made.passed]), hcalls,
      .inl (by simp [framing]), List.forall_mem_nil _⟩
  rw [hkeeps.rows_run hall, hlog, List.cons_append, List.flatMap_cons, List.cons_append,
    List.flatMap_cons, List.flatMap_append]
  congr 1
  exact List.append_nil _

theorem rows_passed_step (step : Option Step) :
    ((Step.calls step).map Made.passed).flatMap Made.rows = [] := by
  rw [List.flatMap_eq_nil_iff]
  intro made hmade
  obtain ⟨call, hcall, rfl⟩ := List.mem_map.mp hmade
  exact rows_of_step hcall none

theorem rows_markCall (m : Migrator) (o : Order) (u : Migration) :
    (Made.passed (m.markCall o u)).rows = [markRowOf o u] := by
  refine (carries_markBlock u _ _).markRows_eq.trans ?_
  rw [UInt32.ofNat_toNat]
  obtain ⟨undo, nop⟩ := o
  cases undo <;> rfl

theorem rows_of_failsWith {step : Option Step} {e : Error} (h : Step.FailsWith step e log) :
    log.flatMap Made.rows = [] := by
  rw [List.flatMap_eq_nil_iff]
  exact fun made hmade => rows_of_step (h.mem hmade) made.failure

namespace Breaks

theorem added {isMarked : Bool} {e : MigrateError} (h : m.Breaks o u log isMarked e) :
    log.flatMap Made.rows = if isMarked then [markRowOf o u] else [] := by
  cases h with
  | skipped hstep honly => exact rows_of_failsWith hstep
  | marked hstep hany =>
    rw [List.flatMap_append, rows_of_failsWith hstep, List.flatMap_singleton, rows_markCall]
    rfl
  | unmarked hstep hany =>
    rw [List.flatMap_append, rows_of_failsWith hstep]
    rfl
  | refused =>
    rw [List.flatMap_append, rows_passed_step]
    rfl

theorem calls {isMarked : Bool} {e : MigrateError} (h : m.Breaks o u log isMarked e) :
    ∀ made ∈ log, made.call ∈ m.callsFor o u := by
  have hstep {e : Error} {log : List Made} (h : Step.FailsWith (o.step u) e log) :
      ∀ made ∈ log, made.call ∈ m.callsFor o u := by
    intro made hmade
    rw [callsFor_eq]
    exact List.mem_append_left _ (h.mem hmade)
  have hmark (failure : Option Error) : ∀ made ∈ [⟨m.markCall o u, failure⟩],
      Made.call made ∈ m.callsFor o u := by
    intro made hmade
    rw [List.mem_singleton.mp hmade, callsFor_eq]
    exact List.mem_append_right _ List.mem_cons_self
  cases h with
  | skipped hfails honly => exact hstep hfails
  | marked hfails hany => exact List.forall_mem_append.mpr ⟨hstep hfails, hmark none⟩
  | unmarked hfails hany => exact List.forall_mem_append.mpr ⟨hstep hfails, hmark _⟩
  | refused =>
    refine List.forall_mem_append.mpr ⟨fun made hmade => ?_, hmark _⟩
    obtain ⟨call, hcall, rfl⟩ := List.mem_map.mp hmade
    exact List.mem_append_left _ hcall

end Breaks

namespace Course

/-- A course adds the rows of the migrations that it marks. -/
theorem added (h : m.Course o As us log marked failure) :
    log.flatMap Made.rows = marked.map (markRowOf o) := by
  induction h with
  | nil => rfl
  | @cons u v us log marked failure has hrest ih =>
    rw [List.flatMap_append, ih, callsFor_eq, List.map_append, List.flatMap_append, rows_passed_step,
      List.map_singleton, List.flatMap_singleton, rows_markCall]
    rfl
  | @stop u v us log isMarked e has hbreaks =>
    rw [hbreaks.added]
    cases isMarked <;> rfl

/-- All calls of a course deal with one of the migrations. -/
theorem calls (h : m.Course o As us log marked failure) :
    ∀ made ∈ log, ∃ u ∈ us, ∃ v, As u v ∧ made.call ∈ m.callsFor o v := by
  induction h with
  | nil => exact List.forall_mem_nil _
  | @cons u v us log marked failure has hrest ih =>
    refine List.forall_mem_append.mpr ⟨fun made hmade => ?_, fun made hmade => ?_⟩
    · obtain ⟨call, hcall, rfl⟩ := List.mem_map.mp hmade
      exact ⟨u, List.mem_cons_self, v, has, hcall⟩
    · obtain ⟨w, hw, hrest⟩ := ih made hmade
      exact ⟨w, List.mem_cons_of_mem _ hw, hrest⟩
  | @stop u v us log isMarked e has hbreaks =>
    exact fun made hmade => ⟨u, List.mem_cons_self, v, has, hbreaks.calls made hmade⟩

/-- What a course marks are migrations that it gets to. -/
theorem marked_mem (h : m.Course o As us log marked failure) : ∀ v ∈ marked, ∃ u ∈ us, As u v := by
  induction h with
  | nil => exact List.forall_mem_nil _
  | @cons u v us log marked failure has hrest ih =>
    refine List.forall_mem_cons.mpr ⟨⟨u, List.mem_cons_self, has⟩, fun w hw => ?_⟩
    obtain ⟨x, hx, hxw⟩ := ih w hw
    exact ⟨x, List.mem_cons_of_mem _ hx, hxw⟩
  | @stop u v us log isMarked e has hbreaks =>
    intro w hw
    cases isMarked with
    | false => cases hw
    | true => exact ⟨u, List.mem_cons_self, List.mem_singleton.mp hw ▸ has⟩

end Course

end Migrator

end ColumnWire

import ColumnWire.Proofs.Migration.Rules

/-!
# The lock is given back on every way out

`Migrator.lock_discipline` says which calls a migrator makes, in order, whatever the database
answers: none if nothing is registered; otherwise the lock first, and if it is got, the status,
the steps and marks of some registered migrations, and giving the lock back as the last call.
A step may make any calls, even one that looks like a call of the migrator's own; therefore the
calls are not told apart by their looks but listed piece by piece, each piece with the calls of
one step in their order.
-/
namespace ColumnWire

open Plan

/-- What a migrator is told to do. -/
structure Order where
  /-- Whether to undo the last group, or else to apply what is not applied. -/
  undo : Bool
  /-- Whether steps are left out. -/
  nop : Bool := false
deriving Repr, DecidableEq

namespace Order

/-- The step that the order asks for. -/
def step (o : Order) (u : Migration) : Option Step :=
  if o.nop then none else if o.undo then u.down else u.up

/-- Migrations in the order in which they are dealt with, given in ascending order. -/
def arrange (o : Order) (us : List Migration) : List Migration := if o.undo then us.reverse else us

end Order

namespace Migrator

variable {α σ τ : Type} {m : Migrator} {o : Order}

/-- Carry an order out. -/
def carryOut (m : Migrator) (o : Order) : Attempt MigrationGroup :=
  if o.undo then m.rollback o.nop else m.migrate o.nop

/-- What an order asks for under the lock. -/
def work (m : Migrator) (o : Order) : Attempt MigrationGroup :=
  if o.undo then m.rollbackLocked o.nop else m.migrateLocked o.nop

/-- Give the lock back, and end with what is known. -/
def release (m : Migrator) (r : Except MigrateError α) : Plan (Except MigrateError α) :=
  .ask (.exec m.unlockSql) fun _ => .done r

theorem carryOut_eq (m : Migrator) (o : Order) : m.carryOut o = m.locked (m.work o) := by
  unfold carryOut work
  split <;> rfl

/-- Whatever the answer to giving the lock back is, the result is the one that was known. -/
theorem unlock_bind (m : Migrator) (r : Except MigrateError α) :
    (m.unlock.run.bind fun _ => .done r) = m.release r := by
  show Plan.ask (.exec m.unlockSql) _ = Plan.ask (.exec m.unlockSql) _
  congr 1
  funext answer
  cases answer with
  | ok a => rfl
  | error e =>
    show Plan.bind (ExceptT.run (if saysUnlocked e then _ else _)) _ = _
    split <;> rfl

theorem locked_of_empty {body : Attempt α} (h : m.registry.migrations = []) :
    (m.locked body).run = .done (.error .noMigrations) := by
  rw [locked, h]
  rfl

theorem locked_of_ne {body : Attempt α} (h : m.registry.migrations ≠ []) :
    (m.locked body).run = .ask (.exec m.lockSql) fun answer =>
      match answer with
      | .ok _ => body.run.bind m.release
      | .error e => .done (.error (.alreadyLocked e)) := by
  have hempty : m.registry.migrations.isEmpty = false := by simpa using h
  rw [locked, hempty]
  show Plan.ask (.exec m.lockSql) _ = Plan.ask (.exec m.lockSql) _
  congr 1
  funext answer
  cases answer with
  | ok a =>
    show (body.run.bind fun r => m.unlock.run.bind fun _ => Plan.done r) = _
    simp only [unlock_bind]
  | error e => rfl

/-! ## What is done under the lock -/

/-- What is done about one migration: the calls that its step makes, and its mark if one is made. -/
structure Piece where
  migration : Migration
  stepCalls : List Call
  mark : Option Block

/-- The calls of a piece. -/
def Piece.calls (m : Migrator) (p : Piece) : List Call :=
  p.stepCalls ++ (p.mark.map (Call.insert m.insertSql)).toList

/-- The pieces deal with some of the listed migrations, each at most once and in their order, and
each step makes its calls in order up to some point. -/
structure Deals (o : Order) (listed : List Migration) (pieces : List Piece) : Prop where
  migrations : (pieces.map (·.migration)).Sublist listed
  stepCalls : ∀ p ∈ pieces, p.stepCalls <+: Step.calls (o.step p.migration)

variable {f : Migration → Migration} {first calls : List Call} {listed us rest : List Migration}

variable (m o listed first) in
/-- The calls so far are those of some pieces, behind others that came first. -/
def Pieced (calls : List Call) : Prop :=
  ∃ pieces, Deals o listed pieces ∧ calls = first ++ pieces.flatMap (Piece.calls m)

variable (m o f us first) in
/-- The calls so far are those of pieces that deal with all that comes before `rest`. -/
def Reached (rest : List Migration) (calls : List Call) : Prop :=
  ∃ (pieces : List Piece) (later : List Migration), pieces.map (·.migration) ++ later = us ∧
    rest = later.map f ∧
    (∀ p ∈ pieces, p.stepCalls <+: Step.calls (o.step p.migration)) ∧
    calls = first ++ pieces.flatMap (Piece.calls m)

theorem Reached.pieced (h : Reached m o f first us rest calls) (hus : us.Sublist listed) :
    Pieced m o first listed calls := by
  obtain ⟨pieces, later, hsplit, -, hsteps, hcalls⟩ := h
  refine ⟨pieces, ⟨?_, hsteps⟩, hcalls⟩
  rw [← hsplit] at hus
  exact (List.sublist_append_left _ _).trans hus

/-- One more migration is dealt with. -/
theorem Reached.next {u : Migration} {stepCalls : List Call} {mark : Option Block}
    (h : Reached m o f first us (u :: rest) calls) (hf : ∀ u, o.step (f u) = o.step u)
    (hmade : stepCalls <+: Step.calls (o.step u)) :
    Reached m o f first us rest
      (calls ++ stepCalls ++ (mark.map (Call.insert m.insertSql)).toList) := by
  obtain ⟨pieces, later, hsplit, hrest, hsteps, rfl⟩ := h
  cases later with
  | nil => cases hrest
  | cons v later =>
    cases hrest
    refine ⟨pieces ++ [⟨v, stepCalls, mark⟩], later, ?_, rfl, ?_, ?_⟩
    · rw [List.map_append, List.append_assoc]
      exact hsplit
    · intro p hp
      rcases List.mem_append.mp hp with hold | hnew
      · exact hsteps p hold
      · rw [List.mem_singleton.mp hnew, ← hf]
        exact hmade
    · simp only [List.flatMap_append, List.flatMap_singleton, Piece.calls, List.append_assoc]

/-- The calls are as `P` says if nothing fails, and else as `Q` says. -/
abbrev Traces (P Q : List Call → Prop) (x : Attempt α) (calls : List Call) : Prop :=
  MeetsEither calling (fun _ _ => True) (fun _ => P) (fun _ => Q) x calls

/-- A mark is at most one call. -/
def Marked (m : Migrator) (calls calls' : List Call) : Prop :=
  ∃ mark : Option Block, calls' = calls ++ (mark.map (Call.insert m.insertSql)).toList

theorem calls_markApplied (m : Migrator) (u : Migration) (calls : List Call) :
    Traces (m.Marked calls) (m.Marked calls) (m.markApplied u) calls := by
  have hnone : m.Marked calls calls := ⟨none, (List.append_nil _).symm⟩
  have hone : ∀ block calls', calling (.insert m.insertSql block) (.ok ()) calls calls' →
      m.Marked calls calls' := fun block calls' h => ⟨some block, h⟩
  exact meets_markApplied (fun _ _ _ => ⟨trivial, hone _, fun _ => hone _⟩) fun _ => hnone

theorem calls_markUnapplied (m : Migrator) (u : Migration) (calls : List Call) :
    Traces (m.Marked calls) (m.Marked calls) (m.markUnapplied u) calls := by
  have hnone : m.Marked calls calls := ⟨none, (List.append_nil _).symm⟩
  have hone : ∀ block calls', calling (.insert m.insertSql block) (.ok ()) calls calls' →
      m.Marked calls calls' := fun block calls' h => ⟨some block, h⟩
  exact meets_markUnapplied (fun _ _ _ _ => ⟨trivial, hone _, fun _ => hone _⟩) fun _ => hnone

/-- The step of a migration and its mark are one piece, wherever they end. -/
theorem calls_perform {u : Migration} {name : String} {mark : Attempt α}
    (h : Reached m o f first us (u :: rest) calls) (hf : ∀ u, o.step (f u) = o.step u)
    (hmark : ∀ calls, Traces (m.Marked calls) (m.Marked calls) mark calls) :
    Traces (Reached m o f first us rest) (Reached m o f first us rest)
      (m.perform name (o.step u) mark) calls := by
  have hstep : Meets calling (fun _ _ => True)
      (fun _ calls' => ∃ made, made <+: Step.calls (o.step u) ∧ calls' = calls ++ made)
      (runStep (o.step u)).run calls := by
    refine meets_runStep ?_ (List.append_nil _).symm
    rintro made call calls' - rfl
    refine ⟨trivial, ?_⟩
    rintro answer calls' rfl
    exact List.append_assoc _ _ _
  have hpiece : ∀ calls' calls'', (∃ made, made <+: Step.calls (o.step u) ∧ calls' = calls ++ made) →
      m.Marked calls' calls'' → Reached m o f first us rest calls'' := by
    rintro calls' calls'' ⟨made, hmade, rfl⟩ ⟨mark, rfl⟩
    exact h.next hf hmade
  refine meets_perform hstep ?_ ?_ ?_
  · intro calls' hmade
    exact (hmark calls').mono (fun _ calls'' => hpiece calls' calls'' hmade)
      fun _ calls'' => hpiece calls' calls'' hmade
  · intro e calls' hmade
    exact hpiece calls' calls' hmade ⟨none, (List.append_nil _).symm⟩
  · exact fun _ _ _ hreached => hreached

/-- What the status says, as far as calls go. -/
theorem calls_status (m : Migrator) :
    MeetsEither calling (fun _ _ => True)
      (fun status calls => (∃ records, status.1 = m.registry.sorted.map (withRecord records)) ∧
        calls = [.query m.statusSql])
      (fun _ calls => calls = [.query m.statusSql]) m.status [] :=
  meets_status trivial (fun _ records _ hcalls _ => ⟨⟨records, rfl⟩, hcalls⟩)
    (fun _ _ _ hcalls _ => hcalls) fun _ _ hcalls => hcalls

theorem pieced_first (o : Order) (first : List Call) (listed : List Migration) :
    Pieced m o first listed first :=
  ⟨[], ⟨List.nil_sublist _, List.forall_mem_nil _⟩, (List.append_nil _).symm⟩

theorem reached_all (hrest : rest = us.map f) : Reached m o f first us rest first :=
  ⟨[], us, rfl, hrest, List.forall_mem_nil _, (List.append_nil _).symm⟩

theorem calls_applyAll {nop : Bool} {group : Int64} (hsub : us.Sublist listed)
    (hf : ∀ u, (f u).up = u.up) :
    Traces (Pieced m ⟨false, nop⟩ first listed) (Pieced m ⟨false, nop⟩ first listed)
      (m.applyAll nop group (us.map f)) first := by
  have hstep : ∀ u, Order.step ⟨false, nop⟩ (f u) = Order.step ⟨false, nop⟩ u :=
    fun u => by simp [Order.step, hf]
  have hall : Traces (Reached m ⟨false, nop⟩ f first us []) (Pieced m ⟨false, nop⟩ first listed)
      (m.applyAll nop group (us.map f)) first := by
    refine meets_applyAll ?_ (reached_all rfl)
    intro u us' calls h
    exact (calls_perform h hstep (m.calls_markApplied _)).mono (fun _ _ h => h)
      fun _ _ h => h.pieced hsub
  exact hall.mono (fun _ _ h => h.pieced hsub) fun _ _ h => h

theorem calls_undoAll {nop : Bool} (hsub : us.Sublist listed) (hf : ∀ u, (f u).down = u.down) :
    Traces (Pieced m ⟨true, nop⟩ first listed) (Pieced m ⟨true, nop⟩ first listed)
      (m.undoAll nop (us.map f)) first := by
  have hstep : ∀ u, Order.step ⟨true, nop⟩ (f u) = Order.step ⟨true, nop⟩ u :=
    fun u => by simp [Order.step, hf]
  have hall : Traces (Reached m ⟨true, nop⟩ f first us []) (Pieced m ⟨true, nop⟩ first listed)
      (m.undoAll nop (us.map f)) first := by
    refine meets_undoAll ?_ (reached_all rfl)
    intro u us' calls h
    exact (calls_perform h hstep (m.calls_markUnapplied _)).mono (fun _ _ h => h)
      fun _ _ h => h.pieced hsub
  exact hall.mono (fun _ _ h => h.pieced hsub) fun _ _ h => h

theorem calls_migrateLocked (m : Migrator) (nop : Bool) :
    let pieced := Pieced m ⟨false, nop⟩ [.query m.statusSql] m.registry.sorted
    Traces pieced pieced (m.migrateLocked nop) [] := by
  intro pieced
  refine (m.calls_status.mono (fun _ _ h => h) ?_).bind ?_
  · rintro e calls rfl
    exact pieced_first _ _ _
  · rintro ⟨known, last⟩ calls ⟨⟨records, rfl⟩, rfl⟩
    simp only
    split
    · exact .pure (pieced_first _ _ _)
    · rw [Migrations.unapplied, List.filter_map]
      exact (calls_applyAll List.filter_sublist (up_withRecord records)).bind fun _ _ h => .pure h

/-- The last group is made of some of the listed migrations, with their records. -/
theorem lastGroup_members (records us : List Migration) :
    ∃ members : List Migration, members.Sublist us ∧
      (Migrations.lastGroup (us.map (withRecord records))).members =
        members.map (withRecord records) := by
  unfold Migrations.lastGroup
  simp only
  split
  · exact ⟨[], List.nil_sublist _, rfl⟩
  · exact ⟨_, List.filter_sublist, List.filter_map⟩

theorem calls_rollbackLocked (m : Migrator) (nop : Bool) :
    let pieced := Pieced m ⟨true, nop⟩ [.query m.statusSql] m.registry.sorted.reverse
    Traces pieced pieced (m.rollbackLocked nop) [] := by
  intro pieced
  refine (m.calls_status.mono (fun _ _ h => h) ?_).bind ?_
  · rintro e calls rfl
    exact pieced_first _ _ _
  · rintro ⟨known, last⟩ calls ⟨⟨records, rfl⟩, rfl⟩
    obtain ⟨members, hsub, hmembers⟩ := lastGroup_members records m.registry.sorted
    simp only [hmembers, ← List.map_reverse]
    exact (calls_undoAll hsub.reverse (down_withRecord records)).bind fun _ _ h => .pure h

/-- Under the lock the status is asked for, and then come pieces. -/
theorem calls_work (m : Migrator) (o : Order) :
    Meets calling (fun _ _ => True)
      (fun _ => Pieced m o [.query m.statusSql] (o.arrange m.registry.sorted)) (m.work o).run [] := by
  have hwork : Traces (Pieced m o [.query m.statusSql] (o.arrange m.registry.sorted))
      (Pieced m o [.query m.statusSql] (o.arrange m.registry.sorted)) (m.work o) [] := by
    obtain ⟨undo, nop⟩ := o
    cases undo with
    | false => exact m.calls_migrateLocked nop
    | true => exact m.calls_rollbackLocked nop
  refine Meets.mono hwork ?_
  rintro (e | group) calls hcalls <;> exact hcalls

/-- **Lock discipline**, whatever the database answers. Nothing is called if no migration is known.
Otherwise the first call takes the lock. If it fails, that is the result and there is no other
call. If it succeeds, the work follows: the status and then steps and marks, piece by piece; and
however the work ends, its result is the result, and giving the lock back is the one call that is
made afterwards. -/
theorem lock_discipline (m : Migrator) (o : Order) (db : Database σ) (s : σ) :
    let result := ((m.carryOut o).run.run db s).1
    let calls := (m.carryOut o).run.trace db s
    if m.registry.migrations = [] then result = .error .noMigrations ∧ calls = []
    else
      match db.answer (.exec m.lockSql) s with
      | (.error e, _) => result = .error (.alreadyLocked e) ∧ calls = [.exec m.lockSql]
      | (.ok _, s) =>
        let between := (m.work o).run.trace db s
        result = ((m.work o).run.run db s).1 ∧
          calls = .exec m.lockSql :: between ++ [.exec m.unlockSql] ∧
          ∃ pieces, Deals o (o.arrange m.registry.sorted) pieces ∧
            between = .query m.statusSql :: pieces.flatMap (Piece.calls m) := by
  simp only [carryOut_eq]
  split
  · next hempty =>
    rw [locked_of_empty hempty]
    exact ⟨rfl, rfl⟩
  · next hne =>
    rw [locked_of_ne hne, Plan.run, Plan.trace]
    rcases hlock : db.answer (.exec m.lockSql) s with ⟨answer, s'⟩
    cases answer with
    | error e => exact ⟨rfl, rfl⟩
    | ok a =>
      obtain ⟨pieces, hdeals, hcalls⟩ := (m.calls_work o).trace db s'
      simp only [run_bind, trace_bind]
      exact ⟨rfl, rfl, pieces, hdeals, hcalls⟩

end Migrator

end ColumnWire

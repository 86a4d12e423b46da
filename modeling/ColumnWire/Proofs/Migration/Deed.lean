import ColumnWire.Proofs.Migration.Lock
import ColumnWire.Proofs.Migration.Status

/-!
# What a migrator does to its tables

What a migrator does under the lock are deeds: it asks for the status, it adds marks, and it makes
the calls of its steps. `Migrator.recording` says what each of them does to the rows of a table.
A database that answers so `Keeps` the table of the migrator, and one in which only one can have
the lock `Locks`.
-/
namespace ColumnWire

open Plan

variable {α σ τ : Type}

/-- A database of which some calls fail, without effect. -/
def Plan.Database.failing (db : Database σ) (failure : Call → Option Error) : Database σ where
  answer call s :=
    match failure call with
    | some e => (.error e, s)
    | none => db.answer call s
  second := db.second

theorem Plan.Database.failing_answer (db : Database σ) (failure : Call → Option Error) (call : Call) (s : σ) :
    (∃ e, (db.failing failure).answer call s = (.error e, s)) ∨
      (db.failing failure).answer call s = db.answer call s := by
  simp only [failing]
  split
  · exact .inl ⟨_, rfl⟩
  · exact .inr rfl

/-- The calls of the steps of all known migrations. -/
def Registry.calls (r : Registry) : List Call :=
  r.migrations.flatMap fun u => Step.calls u.up ++ Step.calls u.down

namespace Migrator

variable {m : Migrator} {effect : Effect τ}

/-- What is done under the lock. -/
def Deed (m : Migrator) (call : Call) : Prop :=
  call = .query m.statusSql ∨ (∃ b, call = .insert m.insertSql b) ∨ call ∈ m.registry.calls

/-- What an answered call does to the rows of a table: rows that are inserted come at the end, and
the live rows are shown on request, in some order and in blocks cut anywhere. -/
def recording (m : Migrator) : Effect (List MarkRow) := fun call answer t t' =>
  match call, answer with
  | .insert sql b, .ok _ => sql = m.insertSql → ∀ rows, b.Carries rows → t' = t ++ rows
  | .query sql, .ok blocks => sql = m.statusSql →
    t' = t ∧ ∃ parts, List.Forall₂ Block.Shows blocks parts ∧ parts.flatten.Perm (MarkRow.live t)
  | _, _ => t' = t

/-- How a database keeps the table of a migrator, whose rows are `marks`. A call that fails has no
effect on them; nor has taking the lock or giving it back, or any call of a step. -/
structure Keeps (m : Migrator) (db : Database σ) (marks : σ → List MarkRow) : Prop where
  failed : ∀ call s e, (db.answer call s).1 = .error e → marks (db.answer call s).2 = marks s
  inserted : ∀ b rows s, Block.Carries b rows →
    (db.answer (.insert m.insertSql b) s).1 = .ok () →
    marks (db.answer (.insert m.insertSql b) s).2 = marks s ++ rows
  shown : ∀ blocks s, (db.answer (.query m.statusSql) s).1 = .ok blocks →
    marks (db.answer (.query m.statusSql) s).2 = marks s ∧
      ∃ parts, List.Forall₂ Block.Shows blocks parts ∧ parts.flatten.Perm (MarkRow.live (marks s))
  locking : ∀ sql ∈ [m.lockSql, m.unlockSql], ∀ s, marks (db.answer (.exec sql) s).2 = marks s
  steps : ∀ call ∈ m.registry.calls, ∀ s, marks (db.answer call s).2 = marks s

/-- How a database makes a lock of a column. It cannot be added while it is there nor dropped while it
is not, and nothing else touches it. Any call may also fail for other reasons. -/
structure Locks (m : Migrator) (db : Database σ) (locked : σ → Bool) : Prop where
  failed : ∀ call s e, (db.answer call s).1 = .error e → locked (db.answer call s).2 = locked s
  taken : ∀ s, (db.answer (.exec m.lockSql) s).1 = .ok () →
    locked s = false ∧ locked (db.answer (.exec m.lockSql) s).2 = true
  given : ∀ s, (db.answer (.exec m.unlockSql) s).1 = .ok () →
    locked s = true ∧ locked (db.answer (.exec m.unlockSql) s).2 = false
  deeds : ∀ call, m.Deed call → ∀ s, locked (db.answer call s).2 = locked s
  apart : ∀ call ∈ m.registry.calls, call ≠ .exec m.lockSql ∧ call ≠ .exec m.unlockSql

section
variable {db : Database σ} {marks : σ → List MarkRow} {locked : σ → Bool}

/-- More failures do no harm to the table. -/
theorem Keeps.failing (h : m.Keeps db marks) (failure : Call → Option Error) :
    m.Keeps (db.failing failure) marks where
  failed call s e hanswer := by
    rcases db.failing_answer failure call s with ⟨e', hfailed⟩ | hsame
    · rw [hfailed]
    · rw [hsame] at hanswer ⊢
      exact h.failed call s e hanswer
  inserted b rows s hrows hanswer := by
    rcases db.failing_answer failure (.insert m.insertSql b) s with ⟨e, hfailed⟩ | hsame
    · rw [hfailed] at hanswer
      cases hanswer
    · rw [hsame] at hanswer ⊢
      exact h.inserted b rows s hrows hanswer
  shown blocks s hanswer := by
    rcases db.failing_answer failure (.query m.statusSql) s with ⟨e, hfailed⟩ | hsame
    · rw [hfailed] at hanswer
      cases hanswer
    · rw [hsame] at hanswer ⊢
      exact h.shown blocks s hanswer
  locking sql hsql s := by
    rcases db.failing_answer failure (.exec sql) s with ⟨e, hfailed⟩ | hsame
    · rw [hfailed]
    · rw [hsame]
      exact h.locking sql hsql s
  steps call hcall s := by
    rcases db.failing_answer failure call s with ⟨e, hfailed⟩ | hsame
    · rw [hfailed]
    · rw [hsame]
      exact h.steps call hcall s

/-- Nor to the lock. -/
theorem Locks.failing (h : m.Locks db locked) (failure : Call → Option Error) :
    m.Locks (db.failing failure) locked where
  failed call s e hanswer := by
    rcases db.failing_answer failure call s with ⟨e', hfailed⟩ | hsame
    · rw [hfailed]
    · rw [hsame] at hanswer ⊢
      exact h.failed call s e hanswer
  taken s hanswer := by
    rcases db.failing_answer failure (.exec m.lockSql) s with ⟨e, hfailed⟩ | hsame
    · rw [hfailed] at hanswer
      cases hanswer
    · rw [hsame] at hanswer ⊢
      exact h.taken s hanswer
  given s hanswer := by
    rcases db.failing_answer failure (.exec m.unlockSql) s with ⟨e, hfailed⟩ | hsame
    · rw [hfailed] at hanswer
      cases hanswer
    · rw [hsame] at hanswer ⊢
      exact h.given s hanswer
  deeds call hdeed s := by
    rcases db.failing_answer failure call s with ⟨e, hfailed⟩ | hsame
    · rw [hfailed]
    · rw [hsame]
      exact h.deeds call hdeed s
  apart := h.apart

end

/-- Calls of steps do nothing to the table. -/
theorem recording_step {call : Call} {step : Option Step} (hcall : call ∈ Step.calls step)
    (answer : Except Error call.Answer) (t t' : List MarkRow) :
    m.recording call answer t t' ↔ t' = t := by
  match step with
  | none => cases hcall
  | some (.sql text) =>
    obtain ⟨sql, -, rfl⟩ := List.mem_map.mp hcall
    cases answer <;> exact Iff.rfl
  | some (.custom label) =>
    obtain rfl := List.mem_singleton.mp hcall
    cases answer <;> exact Iff.rfl

theorem exists_step {call : Call} (h : call ∈ m.registry.calls) : ∃ step, call ∈ Step.calls step := by
  obtain ⟨u, -, hcall⟩ := List.mem_flatMap.mp h
  rcases List.mem_append.mp hcall with hup | hdown
  · exact ⟨_, hup⟩
  · exact ⟨_, hdown⟩

/-- A database that keeps the table answers deeds as it should. -/
theorem Keeps.recording {db : Database σ} {marks : σ → List MarkRow} (h : m.Keeps db marks)
    {call : Call} (hdeed : m.Deed call) (s : σ) :
    m.recording call (db.answer call s).1 (marks s) (marks (db.answer call s).2) := by
  rcases hdeed with rfl | ⟨b, rfl⟩ | hstep
  · cases hanswer : (db.answer (.query m.statusSql) s).1 with
    | error e => exact h.failed _ s e hanswer
    | ok blocks => exact fun _ => h.shown blocks s hanswer
  · cases hanswer : (db.answer (.insert m.insertSql b) s).1 with
    | error e => exact h.failed _ s e hanswer
    | ok a => exact fun _ rows hrows => h.inserted b rows s hrows hanswer
  · obtain ⟨step, hcall⟩ := exists_step hstep
    exact (recording_step hcall _ _ _).mpr (h.steps call hstep s)

/-! ## Only deeds are done -/

/-- Nothing but deeds is done, whatever the answers are and whatever they do to what is watched. -/
abbrev OnlyDeeds (m : Migrator) (effect : Effect τ) (x : Attempt α) (t : τ) : Prop :=
  MeetsEither effect (fun call _ => m.Deed call) (fun _ _ => True) (fun _ _ => True) x t

theorem deeds_markApplied (u : Migration) (t : τ) : m.OnlyDeeds effect (m.markApplied u) t :=
  meets_markApplied
    (fun _ _ _ => ⟨.inr (.inl ⟨_, rfl⟩), fun _ _ => trivial, fun _ _ _ => trivial⟩) fun _ => trivial

theorem deeds_markUnapplied (u : Migration) (t : τ) : m.OnlyDeeds effect (m.markUnapplied u) t :=
  meets_markUnapplied
    (fun _ _ _ _ => ⟨.inr (.inl ⟨_, rfl⟩), fun _ _ => trivial, fun _ _ _ => trivial⟩) fun _ => trivial

theorem deeds_perform {nop : Bool} {name : String} {step : Option Step} {mark : Attempt α}
    (hstep : Step.calls step ⊆ m.registry.calls) (hmark : ∀ t, m.OnlyDeeds effect mark t) (t : τ) :
    m.OnlyDeeds effect (m.perform name (if nop then none else step) mark) t := by
  have hrun : Meets effect (fun call _ => m.Deed call) (fun _ _ => True)
      (runStep (if nop then none else step)).run t := by
    refine (meets_runStep (K := fun _ _ => True) ?_ trivial).mono fun _ _ _ => trivial
    intro made call t hmade _
    have hcall : call ∈ Step.calls (if nop then none else step) := hmade.subset (by simp)
    cases nop with
    | true => cases hcall
    | false => exact ⟨.inr (.inr (hstep hcall)), fun _ _ _ => trivial⟩
  exact meets_perform hrun (fun t _ => hmark t) (fun _ _ _ => trivial) fun _ _ _ _ => trivial

/-- The steps of known migrations are known. -/
theorem calls_subset {records : List Migration} {u : Migration}
    (hu : u ∈ m.registry.sorted.map (withRecord records)) :
    Step.calls u.up ⊆ m.registry.calls ∧ Step.calls u.down ⊆ m.registry.calls := by
  obtain ⟨v, hv, rfl⟩ := List.mem_map.mp hu
  rw [up_withRecord, down_withRecord]
  have hmem := m.registry.sorted_perm.mem_iff.mp hv
  exact ⟨fun call hcall => List.mem_flatMap.mpr ⟨v, hmem, List.mem_append_left _ hcall⟩,
    fun call hcall => List.mem_flatMap.mpr ⟨v, hmem, List.mem_append_right _ hcall⟩⟩

theorem deeds_status (t : τ) :
    MeetsEither effect (fun call _ => m.Deed call)
      (fun status _ => ∃ records, status.1 = m.registry.sorted.map (withRecord records))
      (fun _ _ => True) m.status t :=
  meets_status (.inl rfl) (fun _ records _ _ _ => ⟨records, rfl⟩) (fun _ _ _ _ _ => trivial)
    fun _ _ _ => trivial

theorem deeds_migrateLocked (nop : Bool) (t : τ) : m.OnlyDeeds effect (m.migrateLocked nop) t := by
  refine (deeds_status t).bind ?_
  rintro ⟨known, last⟩ t ⟨records, rfl⟩
  simp only
  split
  · exact .pure trivial
  · have hall : m.OnlyDeeds effect (m.applyAll nop (last + 1)
        (Migrations.unapplied (m.registry.sorted.map (withRecord records)))) t := by
      refine (meets_applyAll (K := fun us _ => ∀ u ∈ us, Step.calls u.up ⊆ m.registry.calls) ?_ ?_).mono
        (fun _ _ _ => trivial) fun _ _ h => h
      · intro u us t hsteps
        exact (deeds_perform (hsteps u List.mem_cons_self) (fun t => deeds_markApplied _ t) t).mono
          (fun _ _ _ v hv => hsteps v (List.mem_cons_of_mem _ hv)) fun _ _ h => h
      · exact fun u hu => (calls_subset (List.mem_of_mem_filter hu)).1
    exact hall.bind fun _ _ _ => .pure trivial

theorem deeds_rollbackLocked (nop : Bool) (t : τ) : m.OnlyDeeds effect (m.rollbackLocked nop) t := by
  refine (deeds_status t).bind ?_
  rintro ⟨known, last⟩ t ⟨records, rfl⟩
  have hmembers : ∀ u ∈ (Migrations.lastGroup (m.registry.sorted.map (withRecord records))).members.reverse,
      Step.calls u.down ⊆ m.registry.calls := by
    intro u hu
    obtain ⟨members, hsub, hmembers⟩ := lastGroup_members records m.registry.sorted
    rw [List.mem_reverse, hmembers] at hu
    exact (calls_subset ((hsub.map _).subset hu)).2
  have hall : m.OnlyDeeds effect (m.undoAll nop
      (Migrations.lastGroup (m.registry.sorted.map (withRecord records))).members.reverse) t := by
    refine (meets_undoAll (K := fun us _ => ∀ u ∈ us, Step.calls u.down ⊆ m.registry.calls) ?_
      hmembers).mono (fun _ _ _ => trivial) fun _ _ h => h
    intro u us t hsteps
    exact (deeds_perform (hsteps u List.mem_cons_self) (fun t => deeds_markUnapplied _ t) t).mono
      (fun _ _ _ v hv => hsteps v (List.mem_cons_of_mem _ hv)) fun _ _ h => h
  exact hall.bind fun _ _ _ => .pure trivial

/-- Under the lock only deeds are done. -/
theorem deeds_work (m : Migrator) (o : Order) (effect : Effect τ) (t : τ) :
    m.OnlyDeeds effect (m.work o) t := by
  obtain ⟨undo, nop⟩ := o
  cases undo with
  | false => exact deeds_migrateLocked nop t
  | true => exact deeds_rollbackLocked nop t

end Migrator

end ColumnWire

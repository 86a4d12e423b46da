import ColumnWire.Pool.Task
import Mathlib.Algebra.GroupWithZero.Nat
import Mathlib.Data.List.Perm.Basic

/-!
# A pool that has been closed

Whoever gives a connection back looks whether the pool is closed, and puts the connection onto the
stack in a later step. Whoever closes the pool raises the flag, closes the slots and clears the
stack. So a user who has looked before the flag was up may put its connection onto the stack after
it was cleared, and nobody takes it off again. `idle_after_close` says that this is the only way for
a connection to be left over, and that each such user leaves one: a pool that has been closed is
empty from then on exactly if nobody was between the two steps when its stack was cleared.
-/
namespace ColumnWire

variable {σ : Type}

namespace PoolTask

/-- The connection that the user is about to put onto the stack. -/
def keeping? : PoolTask σ → Option (Connection σ)
  | .keep conn => some conn
  | _ => none

/-- Whether the user has raised the flag and is not done with closing the pool. -/
def isClosing : PoolTask σ → Bool
  | .closeSlots | .clearIdle => true
  | _ => false

/-- How many steps are left of giving a connection back, or its slot. -/
def stepsBack : PoolTask σ → Nat
  | .returning _ => 3
  | .keep _ | .discard _ => 2
  | .leave _ => 1
  | _ => 0

/-- What a step may do to the flag and to the stack: only who keeps a connection adds to the stack,
and nobody begins to keep one once the flag is up. -/
structure Effect (task : PoolTask σ) (p : Pool σ) (task' : PoolTask σ) (p' : Pool σ) : Prop where
  flag : p.closed = true → p'.closed = true
  looked : p.closed = true → task'.keeping? = none
  closing : task'.isClosing = true → task.isClosing = true ∨ p'.closed = true
  stacked : ∀ conn ∈ p'.idle, conn ∈ p.idle ∨ ∃ kept, task.keeping? = some kept ∧ conn.id = kept.id

variable {config : Config} {now : Duration} {event : PoolEvent σ} {task task' : PoolTask σ}
  {p p' : Pool σ}

/-- Most steps leave the flag as it is and put nothing onto the stack. -/
theorem Effect.plain (hflag : p'.closed = p.closed) (hidle : ∀ conn ∈ p'.idle, conn ∈ p.idle)
    (hkeeping : task'.keeping? = none) (hclosing : task'.isClosing = false) :
    Effect task p task' p' where
  flag h := hflag.trans h
  looked _ := hkeeping
  closing h := by
    rw [hclosing] at h
    cases h
  stacked conn hconn := .inl (hidle conn hconn)

theorem effect_step (h : task.step config now event p = some (task', p')) :
    Effect task p task' p' := by
  cases task with
  | enter =>
    cases h
    by_cases hclosed : p.closed = true
    · rw [if_pos hclosed]
      exact .plain rfl (fun _ h => h) rfl rfl
    · rw [if_neg hclosed]
      exact .plain rfl (fun _ h => h) rfl rfl
  | queue =>
    simp only [step, Pool.takeSlot] at h
    split at h
    · cases h
      exact .plain rfl (fun _ h => h) rfl rfl
    · next hslot =>
      split at hslot
      · cases hslot
      · split at hslot <;> cases hslot
        cases h
        exact .plain rfl (fun _ h => h) rfl rfl
    · cases h
      exact .plain rfl (fun _ h => h) rfl rfl
    · cases h
  | choose =>
    simp only [step, Pool.pop] at h
    split at h
    · cases h
      exact .plain rfl (fun _ h => h) rfl rfl
    · next conn q hpop =>
      split at hpop
      · cases hpop
      · next idle hidle =>
        cases hpop
        split at h <;> cases h
        · exact .plain rfl (fun c hc => hidle ▸ List.mem_cons_of_mem _ hc) rfl rfl
        · exact .plain rfl (fun c hc => hidle ▸ List.mem_cons_of_mem _ hc) rfl rfl
  | number =>
    cases h
    exact .plain rfl (fun _ h => h) rfl rfl
  | dial id =>
    simp only [step] at h
    split at h <;> cases h <;> exact .plain rfl (fun _ h => h) rfl rfl
  | hold held =>
    simp only [step] at h
    split at h
    · cases h
      split <;> exact .plain rfl (fun _ h => h) rfl rfl
    · cases h
      exact .plain rfl (fun _ h => h) rfl rfl
    · cases h
  | returning conn =>
    cases h
    by_cases hclosed : p.closed = true
    · rw [if_pos hclosed]
      exact .plain rfl (fun _ h => h) rfl rfl
    · rw [if_neg hclosed]
      exact ⟨id, fun h => absurd h hclosed, fun h => absurd h Bool.false_ne_true, fun _ => .inl⟩
  | keep kept =>
    cases h
    refine ⟨id, fun _ => rfl, fun h => absurd h Bool.false_ne_true, fun conn hconn => ?_⟩
    rcases List.mem_cons.mp hconn with rfl | hconn
    · exact .inr ⟨kept, rfl, rfl⟩
    · exact .inl hconn
  | discard conn | leave failure =>
    cases h
    exact .plain rfl (fun _ h => h) rfl rfl
  | raiseFlag =>
    cases h
    exact ⟨fun _ => rfl, fun _ => rfl, fun _ => .inr rfl, fun _ => .inl⟩
  | closeSlots =>
    cases h
    exact ⟨id, fun _ => rfl, fun _ => .inl rfl, fun _ => .inl⟩
  | clearIdle =>
    cases h
    exact .plain rfl (fun _ hmem => absurd hmem List.not_mem_nil) rfl rfl
  | done failure => cases h

/-- Whoever has looked at the flag goes on to give the slot back, whatever the others do. -/
theorem step_back (config : Config) (now : Duration) (hclosed : p.closed = true)
    (hback : task.stepsBack ≠ 0) :
    ∃ task' p', task.step config now .go p = some (task', p') ∧ task'.stepsBack < task.stepsBack ∧
      p.idle.length ≤ p'.idle.length := by
  cases task with
  | returning conn =>
    refine ⟨.discard conn, p, ?_, Nat.lt_succ_self _, Nat.le_refl _⟩
    simp [step, hclosed]
  | keep conn => exact ⟨_, _, rfl, Nat.lt_succ_self _, Nat.le_succ _⟩
  | discard conn => exact ⟨_, _, rfl, Nat.lt_succ_self _, Nat.le_refl _⟩
  | leave failure => exact ⟨_, _, rfl, Nat.lt_succ_self _, Nat.le_refl _⟩
  | _ => exact absurd rfl hback

end PoolTask

namespace PoolSystem

open PoolTask

/-- The numbers of the connections that somebody is about to put onto the stack. -/
def kept (s : PoolSystem σ) : List Nat := s.tasks.filterMap fun task => task.keeping?.map (·.id)

/-- Nobody is half-way through giving a connection back. -/
def Quiet (s : PoolSystem σ) : Prop := ∀ task ∈ s.tasks, task.stepsBack = 0

/-- What an action comes to: somebody new, nothing, or a step of one user. -/
theorem step_cases (s : PoolSystem σ) (action : PoolAction σ) :
    (∃ task, (task = .enter ∨ task = .raiseFlag) ∧
      s.step action = { s with tasks := s.tasks ++ [task] }) ∨
    s.step action = s ∨
    ∃ user task task' pool now event, s.tasks[user]? = some task ∧
      task.step s.config now event s.pool = some (task', pool) ∧
      s.step action = { s with pool, now, tasks := s.tasks.set user task' } := by
  cases action with
  | acquire => exact .inl ⟨.enter, .inl rfl, rfl⟩
  | close => exact .inl ⟨.raiseFlag, .inr rfl, rfl⟩
  | advance user event span =>
    simp only [step]
    cases htask : s.tasks[user]? with
    | none => exact .inr (.inl rfl)
    | some task =>
      cases hnext : task.step s.config ⟨s.now.nanos + span.nanos⟩ event s.pool with
      | none => exact .inr (.inl (by simp only [hnext]))
      | some next =>
        exact .inr (.inr ⟨user, task, next.1, next.2, _, event, htask, hnext, by simp only [hnext]⟩)

/-! ## Before the stack is cleared -/

/-- Whoever closes the slots or clears the stack finds the flag up. -/
def Flagged (s : PoolSystem σ) : Prop :=
  ∀ task ∈ s.tasks, task.isClosing = true → s.pool.closed = true

variable {s : PoolSystem σ}

theorem Flagged.step (h : s.Flagged) (action : PoolAction σ) : (s.step action).Flagged := by
  rcases step_cases s action with ⟨new, hnew, hstep⟩ | hstep |
    ⟨user, task, task', pool, now, event, htask, hnext, hstep⟩
  · rw [hstep]
    intro t ht hclosing
    rcases List.mem_append.mp ht with ht | ht
    · exact h t ht hclosing
    · cases List.mem_singleton.mp ht
      rcases hnew with rfl | rfl <;> cases hclosing
  · rw [hstep]
    exact h
  · rw [hstep]
    have heffect := effect_step hnext
    have hmem : task ∈ s.tasks := List.mem_of_getElem? htask
    intro t ht hclosing
    rcases List.mem_or_eq_of_mem_set ht with ht | rfl
    · exact heffect.flag (h t ht hclosing)
    · rcases heffect.closing hclosing with hbefore | hflag
      · exact heffect.flag (h task hmem hbefore)
      · exact hflag

theorem Flagged.run (h : s.Flagged) (actions : List (PoolAction σ)) : (s.run actions).Flagged := by
  induction actions generalizing s with
  | nil => exact h
  | cons action actions ih => exact ih (h.step action)

/-! ## After the stack was cleared -/

theorem step_clear {user : Nat} {event : PoolEvent σ} {span : Duration}
    (h : s.tasks[user]? = some .clearIdle) :
    s.step (.advance user event span) =
      { s with pool := s.pool.clearIdle, now := ⟨s.now.nanos + span.nanos⟩,
               tasks := s.tasks.set user (.done none) } := by
  simp only [step, h, PoolTask.step]

/-- The pool is closed, and only connections of these numbers are idle or about to be. -/
structure Sealed (numbers : List Nat) (s : PoolSystem σ) : Prop where
  closed : s.pool.closed = true
  idle : ∀ conn ∈ s.pool.idle, conn.id ∈ numbers
  keeping : ∀ task ∈ s.tasks, ∀ conn, task.keeping? = some conn → conn.id ∈ numbers

namespace Sealed

variable {numbers : List Nat}

theorem step (h : s.Sealed numbers) (action : PoolAction σ) : (s.step action).Sealed numbers := by
  rcases step_cases s action with ⟨new, hnew, hstep⟩ | hstep |
    ⟨user, task, task', pool, now, event, htask, hnext, hstep⟩
  · rw [hstep]
    refine ⟨h.closed, h.idle, fun t ht conn hconn => ?_⟩
    rcases List.mem_append.mp ht with ht | ht
    · exact h.keeping t ht conn hconn
    · cases List.mem_singleton.mp ht
      rcases hnew with rfl | rfl <;> cases hconn
  · rw [hstep]
    exact h
  · rw [hstep]
    have heffect := effect_step hnext
    have hmem : task ∈ s.tasks := List.mem_of_getElem? htask
    refine ⟨heffect.flag h.closed, fun conn hconn => ?_, fun t ht conn hconn => ?_⟩
    · rcases heffect.stacked conn hconn with hidle | ⟨kept, hkept, hid⟩
      · exact h.idle conn hidle
      · rw [hid]
        exact h.keeping task hmem kept hkept
    · rcases List.mem_or_eq_of_mem_set ht with ht | rfl
      · exact h.keeping t ht conn hconn
      · rw [heffect.looked h.closed] at hconn
        cases hconn

theorem run (h : s.Sealed numbers) (actions : List (PoolAction σ)) :
    (s.run actions).Sealed numbers := by
  induction actions generalizing s with
  | nil => exact h
  | cons action actions ih => exact ih (h.step action)

/-- The stack is cleared. What others are about to put onto it is all there can be from now on. -/
theorem clear {user : Nat} (hflagged : s.Flagged) (h : s.tasks[user]? = some .clearIdle)
    (event : PoolEvent σ) (span : Duration) :
    (s.step (.advance user event span)).Sealed s.kept := by
  have hclosed : s.pool.closed = true := hflagged _ (List.mem_of_getElem? h) rfl
  rw [step_clear h]
  refine ⟨hclosed, fun _ hmem => absurd hmem List.not_mem_nil, fun t ht conn hconn => ?_⟩
  rcases List.mem_or_eq_of_mem_set ht with ht | rfl
  · exact List.mem_filterMap.mpr ⟨t, ht, by rw [hconn]; rfl⟩
  · cases hconn

end Sealed

/-! ## What is left over -/

/-- A step of one user. -/
theorem step_advance {user : Nat} {task task' : PoolTask σ} {pool : Pool σ}
    (htask : s.tasks[user]? = some task)
    (hnext : task.step s.config ⟨s.now.nanos + 0⟩ .go s.pool = some (task', pool)) :
    s.step (.advance user .go ⟨0⟩) =
      { s with pool, now := ⟨s.now.nanos + 0⟩, tasks := s.tasks.set user task' } := by
  simp only [step, htask, hnext]

/-- One user goes on, and has fewer steps left. -/
theorem sum_stepsBack_set {tasks : List (PoolTask σ)} {task' : PoolTask σ} {user : Nat}
    (hlt : user < tasks.length) (hless : task'.stepsBack < tasks[user].stepsBack) :
    ((tasks.set user task').map stepsBack).sum < (tasks.map stepsBack).sum := by
  have hafter := ((List.set_perm_cons_eraseIdx hlt task').map stepsBack).sum_nat
  have hbefore := ((List.getElem_cons_eraseIdx_perm hlt).map stepsBack).sum_nat
  simp only [List.map_cons, List.sum_cons] at hafter hbefore
  omega

/-- Whoever is giving a connection back can get done with it, and something stays idle. -/
theorem exists_quiet (hclosed : s.pool.closed = true) (hidle : s.pool.idle ≠ []) :
    ∃ after, (s.run after).Quiet ∧ (s.run after).pool.idle ≠ [] := by
  induction hleft : (s.tasks.map stepsBack).sum using Nat.strongRecOn generalizing s with
  | ind left ih =>
    subst hleft
    by_cases hquiet : s.Quiet
    · exact ⟨[], hquiet, hidle⟩
    · obtain ⟨task, hmem, hback⟩ : ∃ task ∈ s.tasks, task.stepsBack ≠ 0 := by
        simpa [Quiet] using hquiet
      obtain ⟨user, hlt, rfl⟩ := List.getElem_of_mem hmem
      obtain ⟨task', pool, hnext, hless, hlength⟩ :=
        step_back s.config ⟨s.now.nanos + 0⟩ hclosed hback
      have hstep := step_advance (List.getElem?_eq_getElem hlt) hnext
      have hidle' : pool.idle ≠ [] := by
        rw [← List.length_pos_iff] at hidle ⊢
        omega
      obtain ⟨after, hafter⟩ := ih _ (sum_stepsBack_set hlt hless) (s := s.step _)
        (by rw [hstep]; exact (effect_step hnext).flag hclosed) (by rw [hstep]; exact hidle')
        (by rw [hstep])
      exact ⟨_ :: after, hafter⟩

/-- Whoever is about to keep a connection can leave it over for good. -/
theorem exists_left_over {user : Nat} {conn : Connection σ} (hclosed : s.pool.closed = true)
    (h : s.tasks[user]? = some (.keep conn)) :
    ∃ after, (s.run after).Quiet ∧ (s.run after).pool.idle ≠ [] := by
  have hstep := step_advance h rfl
  obtain ⟨after, hafter⟩ := exists_quiet (s := s.step (.advance user .go ⟨0⟩))
    (by rw [hstep]; exact hclosed) (by rw [hstep]; exact List.cons_ne_nil _ _)
  exact ⟨_ :: after, hafter⟩

/-- The stack is cleared, and from then on nothing is idle unless somebody was about to keep it. -/
theorem idle_after_clear {user : Nat} (hflagged : s.Flagged)
    (h : s.tasks[user]? = some .clearIdle) (event : PoolEvent σ) (span : Duration) :
    (∀ after, ((s.step (.advance user event span)).run after).Quiet →
      ((s.step (.advance user event span)).run after).pool.idle = []) ↔ s.kept = [] := by
  have hsealed := Sealed.clear hflagged h event span
  constructor
  · intro hempty
    refine List.filterMap_eq_nil_iff.mpr fun task hmem => ?_
    by_contra hkeeping
    obtain ⟨conn, rfl⟩ : ∃ conn, task = .keep conn := by
      cases task <;> first | exact ⟨_, rfl⟩ | exact absurd rfl hkeeping
    obtain ⟨k, hk⟩ := List.mem_iff_getElem?.mp hmem
    have hne : user ≠ k := by
      rintro rfl
      rw [h] at hk
      cases hk
    have hkeep : (s.step (.advance user event span)).tasks[k]? = some (.keep conn) := by
      rw [step_clear h, List.getElem?_set_ne hne]
      exact hk
    obtain ⟨after, hquiet, hidle⟩ := exists_left_over hsealed.closed hkeep
    exact hidle (hempty after hquiet)
  · intro hkept after _
    refine List.eq_nil_iff_forall_not_mem.mpr fun conn hconn => ?_
    have hnumber := (hsealed.run after).idle conn hconn
    rw [hkept] at hnumber
    cases hnumber

/-- **A connection is left over exactly if somebody was about to keep it** when the stack was
cleared. Whatever the users of a pool do and in whatever order they take their steps: once the pool
has been closed, only such connections are ever idle, and if there are any then one can be left for
good. -/
theorem idle_after_close (config : Config) (before : List (PoolAction σ)) (user : Nat)
    (event : PoolEvent σ) (span : Duration)
    (h : ((ofConfig config).run before).tasks[user]? = some .clearIdle) :
    let s := (ofConfig config : PoolSystem σ).run before
    let t := s.step (.advance user event span)
    (∀ after, ∀ conn ∈ (t.run after).pool.idle, conn.id ∈ s.kept) ∧
      ((∀ after, (t.run after).Quiet → (t.run after).pool.idle = []) ↔ s.kept = []) := by
  have hflagged : ((ofConfig config : PoolSystem σ).run before).Flagged :=
    Flagged.run (s := ofConfig config) (fun _ hmem => absurd hmem List.not_mem_nil) before
  have hsealed := Sealed.clear hflagged h event span
  exact ⟨fun after => (hsealed.run after).idle, idle_after_clear hflagged h event span⟩

/-! ## One connection that is left over -/

/-- User 0 gives its connection back and finds the flag down; then user 1 raises it, closes the
slots and is about to clear the stack. -/
def lateFlag : List (PoolAction Unit) :=
  [.acquire, .close, .advance 0 .go ⟨0⟩, .advance 0 .go ⟨0⟩, .advance 0 .go ⟨0⟩, .advance 0 .go ⟨0⟩,
    .advance 0 (.dialled (.connected ⟨(), []⟩)) ⟨0⟩,
    .advance 0 (.finished (.fresh {} 1 ⟨(), []⟩ ⟨0⟩) none) ⟨0⟩, .advance 0 .go ⟨0⟩,
    .advance 1 .go ⟨0⟩, .advance 1 .go ⟨0⟩]

theorem idle_after_lateFlag :
    let s := (ofConfig {} : PoolSystem Unit).run lateFlag
    let t := s.step (.advance 1 .go ⟨0⟩)
    s.tasks[1]? = some .clearIdle ∧ s.kept = [1] ∧
      (∀ after, ∀ conn ∈ (t.run after).pool.idle, conn.id ∈ s.kept) ∧
      ¬ ∀ after, (t.run after).Quiet → (t.run after).pool.idle = [] := by
  have hclear : ((ofConfig {} : PoolSystem Unit).run lateFlag).tasks[1]? = some .clearIdle := rfl
  have hkept : ((ofConfig {} : PoolSystem Unit).run lateFlag).kept = [1] := rfl
  obtain ⟨hidle, hiff⟩ := idle_after_close {} lateFlag 1 .go ⟨0⟩ hclear
  refine ⟨hclear, hkept, hidle, ?_⟩
  intro hempty
  have hnone := hiff.mp hempty
  rw [hkept] at hnone
  cases hnone

/-- **The pool is closed, everybody is done, and a connection is idle**: user 0 has put its
connection onto the stack when user 1 had cleared it. -/
theorem left_over_lateFlag :
    let s := (ofConfig {} : PoolSystem Unit).run lateFlag
    let t := (s.step (.advance 1 .go ⟨0⟩)).run [.advance 0 .go ⟨0⟩, .advance 0 .go ⟨0⟩]
    s.tasks[1]? = some .clearIdle ∧ t.tasks = [.done none, .done none] ∧ t.pool.closed = true ∧
      t.Quiet ∧ t.pool.idle.map (·.id) = [1] := by
  refine ⟨rfl, rfl, rfl, ?_, rfl⟩
  intro task hmem
  have hdone : task ∈ [PoolTask.done none, .done none] := hmem
  simp only [List.mem_cons, List.not_mem_nil, or_false, or_self] at hdone
  rw [hdone]
  rfl

end PoolSystem

end ColumnWire

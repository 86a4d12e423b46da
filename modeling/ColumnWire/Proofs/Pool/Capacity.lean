import ColumnWire.Pool.Task
import Mathlib.Data.List.Perm.Basic

/-!
# Slots and places of a pool

Free slots and the slots that users hold are as many as the pool has, and no more connections
are idle, in somebody's hands or being dialled than there are slots. The second is not a count
of slots: an idle connection holds none, and between finding the stack empty and connecting
others may fill the stack again. So a user who has found the stack empty counts from then on
(`PoolTask.takesPlace`); at that moment nothing is idle, and every place is paid for by a slot.
-/
namespace ColumnWire

variable {σ : Type}

namespace PoolTask

/-- Whether there is a connection in the user's hands, or the user is about to have one made. -/
def takesPlace : PoolTask σ → Bool
  | .number | .dial _ | .hold _ | .returning _ | .keep _ | .discard _ => true
  | _ => false

/-- The number of the connection that is in the user's hands or being dialled. -/
def number? : PoolTask σ → Option Nat
  | .dial id => some id
  | .hold conn | .returning conn | .keep conn | .discard conn => some conn.id
  | _ => none

/-- Whoever takes a place holds a slot. -/
theorem holdsSlot_of_takesPlace {task : PoolTask σ} (h : task.takesPlace = true) :
    task.holdsSlot = true := by
  cases task <;> first | rfl | cases h

end PoolTask

namespace Pool

open PoolTask

/-- The numbers of the connections that are idle, in somebody's hands or being dialled. -/
def numbers (tasks : List (PoolTask σ)) (p : Pool σ) : List Nat :=
  p.idle.map (·.id) ++ tasks.filterMap number?

/-- The users of a pool keep within its size. -/
structure Within (size : Nat) (tasks : List (PoolTask σ)) (p : Pool σ) : Prop where
  slots : p.free + tasks.countP holdsSlot = size
  places : p.idle.length + tasks.countP takesPlace ≤ size
  distinct : (p.numbers tasks).Nodup
  numbered : ∀ n ∈ p.numbers tasks, n < p.nextId

namespace Within

variable {size : Nat} {task task' : PoolTask σ} {tasks tasks' : List (PoolTask σ)} {p p' : Pool σ}
  {c : Connection σ}

theorem ofSize (size : Nat) : Within size [] (.ofSize size : Pool σ) where
  slots := rfl
  places := Nat.zero_le _
  distinct := List.nodup_nil
  numbered := List.forall_mem_nil _

/-- It does not matter in which order the users are listed. -/
theorem perm (h : Within size tasks p) (hperm : tasks'.Perm tasks) : Within size tasks' p := by
  have hnumbers : (p.numbers tasks').Perm (p.numbers tasks) :=
    (hperm.filterMap number?).append_left _
  refine ⟨?_, ?_, hnumbers.nodup_iff.mpr h.distinct, fun n hn => h.numbered n (hnumbers.mem_iff.mp hn)⟩
  · rw [hperm.countP_eq]
    exact h.slots
  · rw [hperm.countP_eq]
    exact h.places

/-- What has departed and whether the pool is closed makes no difference. -/
theorem congr (h : Within size tasks p) (hfree : p'.free = p.free) (hidle : p'.idle = p.idle)
    (hnext : p'.nextId = p.nextId) : Within size tasks p' := by
  have hnumbers : p'.numbers tasks = p.numbers tasks := by rw [numbers, numbers, hidle]
  refine ⟨?_, ?_, ?_, ?_⟩
  · rw [hfree]
    exact h.slots
  · rw [hidle]
    exact h.places
  · rw [hnumbers]
    exact h.distinct
  · rw [hnumbers, hnext]
    exact h.numbered

/-- Places are paid for by slots. -/
theorem places_le_slots (tasks : List (PoolTask σ)) :
    tasks.countP takesPlace ≤ tasks.countP holdsSlot :=
  List.countP_mono_left fun _ _ h => holdsSlot_of_takesPlace h

/-- A user goes on, and every connection stays where it is. -/
theorem goOn (h : Within size (task :: tasks) p) (hslot : task'.holdsSlot = task.holdsSlot)
    (hplace : task'.takesPlace = task.takesPlace) (hnumber : task'.number? = task.number?) :
    Within size (task' :: tasks) p := by
  have hnumbers : p.numbers (task' :: tasks) = p.numbers (task :: tasks) := by
    simp only [numbers, List.filterMap_cons, hnumber]
  refine ⟨?_, ?_, hnumbers ▸ h.distinct, hnumbers ▸ h.numbered⟩
  · simpa only [List.countP_cons, hslot] using h.slots
  · simpa only [List.countP_cons, hplace] using h.places

/-- A user goes on and closes its connection or calls off a dial. -/
theorem letGo (h : Within size (task :: tasks) p) (hslot : task'.holdsSlot = task.holdsSlot)
    (hplace : task'.takesPlace = false) (hnumber : task'.number? = none) :
    Within size (task' :: tasks) p := by
  have hsub : (p.numbers (task' :: tasks)).Sublist (p.numbers (task :: tasks)) := by
    refine List.Sublist.append_left ?_ _
    cases hold : task.number? <;> simp [hnumber, hold]
  refine ⟨?_, ?_, h.distinct.sublist hsub, fun n hn => h.numbered n (hsub.subset hn)⟩
  · simpa only [List.countP_cons, hslot] using h.slots
  · have hplaces := h.places
    simp only [List.countP_cons, hplace, Bool.false_eq_true, if_false] at hplaces ⊢
    omega

/-! ## Indivisible changes -/

theorem takeSlot (h : Within size (.queue :: tasks) p) (hslot : p.takeSlot = .granted p') :
    Within size (.choose :: tasks) p' := by
  unfold Pool.takeSlot at hslot
  split at hslot
  · cases hslot
  · split at hslot
    · cases hslot
    · next hfree =>
      cases hslot
      refine ⟨?_, ?_, h.distinct, h.numbered⟩
      · have hslots := h.slots
        simp only [List.countP_cons, holdsSlot] at hslots ⊢
        simp only [Bool.false_eq_true, if_false] at hslots
        simp only [if_true]
        omega
      · exact h.places

/-- Nothing is idle, so the slots of the users leave a place for one more connection. -/
theorem pop_none (h : Within size (.choose :: tasks) p) (hpop : p.pop = none) :
    Within size (.number :: tasks) p := by
  have hidle := Pool.pop_eq_none hpop
  refine ⟨h.slots, ?_, h.distinct, h.numbered⟩
  have hslots := h.slots
  have hplaces := places_le_slots tasks
  simp only [List.countP_cons, holdsSlot, takesPlace, if_true] at hslots ⊢
  rw [hidle, List.length_nil]
  omega

theorem pop (h : Within size (.choose :: tasks) p) (hpop : p.pop = some (c, p')) :
    Within size (.hold c :: tasks) p' := by
  obtain ⟨idle, hidle, rfl⟩ := Pool.pop_eq_some hpop
  have hperm : (numbers (.hold c :: tasks) { p with idle }).Perm (p.numbers (.choose :: tasks)) := by
    simp only [numbers, hidle, List.filterMap_cons, number?, List.map_cons, List.cons_append]
    exact List.perm_middle
  refine ⟨h.slots, ?_, hperm.nodup_iff.mpr h.distinct, fun n hn => h.numbered n (hperm.mem_iff.mp hn)⟩
  have hplaces := h.places
  simp only [hidle, List.countP_cons, takesPlace, List.length_cons, if_true, Bool.false_eq_true,
    if_false] at hplaces ⊢
  omega

theorem number (h : Within size (.number :: tasks) p) :
    Within size (.dial p.number.1 :: tasks) p.number.2 := by
  have hperm : (p.number.2.numbers (.dial p.number.1 :: tasks)).Perm
      (p.nextId :: p.numbers (.number :: tasks)) := List.perm_middle
  refine ⟨h.slots, h.places, hperm.nodup_iff.mpr ?_, fun n hn => ?_⟩
  · exact List.nodup_cons.mpr ⟨fun hmem => Nat.lt_irrefl _ (h.numbered _ hmem), h.distinct⟩
  · rcases List.mem_cons.mp (hperm.mem_iff.mp hn) with rfl | hold
    · exact Nat.lt_succ_self _
    · exact Nat.lt_succ_of_lt (h.numbered n hold)

/-- The connection is idle before its slot is given back. -/
theorem push (h : Within size (.keep c :: tasks) p) (failure : Option Error) (now : Duration) :
    Within size (.leave failure :: tasks) (p.push { c with lastUsed := now }) := by
  have hperm : ((p.push { c with lastUsed := now }).numbers (.leave failure :: tasks)).Perm
      (p.numbers (.keep c :: tasks)) := by
    simp only [numbers, Pool.push, List.filterMap_cons, number?, List.map_cons, List.cons_append]
    exact List.perm_middle.symm
  refine ⟨h.slots, ?_, hperm.nodup_iff.mpr h.distinct, fun n hn => h.numbered n (hperm.mem_iff.mp hn)⟩
  have hplaces := h.places
  simp only [Pool.push, List.countP_cons, takesPlace, List.length_cons, if_true, Bool.false_eq_true,
    if_false] at hplaces ⊢
  omega

theorem giveSlot {failure : Option Error} (h : Within size (.leave failure :: tasks) p) :
    Within size (.done failure :: tasks) p.giveSlot := by
  refine ⟨?_, h.places, h.distinct, h.numbered⟩
  have hslots := h.slots
  simp only [Pool.giveSlot, List.countP_cons, holdsSlot, if_true, Bool.false_eq_true,
    if_false] at hslots ⊢
  omega

theorem clearIdle (h : Within size tasks p) : Within size tasks p.clearIdle := by
  have hsub : (p.clearIdle.numbers tasks).Sublist (p.numbers tasks) := List.sublist_append_right _ _
  refine ⟨h.slots, ?_, h.distinct.sublist hsub, fun n hn => h.numbered n (hsub.subset hn)⟩
  exact Nat.le_trans (Nat.add_le_add_right (Nat.zero_le _) _) h.places

end Within

end Pool

/-- **A step of one user** keeps all of them within the size of the pool. -/
theorem PoolTask.within_step {config : Config} {now : Duration} {event : PoolEvent σ} {size : Nat}
    {task task' : PoolTask σ} {others : List (PoolTask σ)} {p p' : Pool σ}
    (h : p.Within size (task :: others)) (hstep : task.step config now event p = some (task', p')) :
    p'.Within size (task' :: others) := by
  cases task with
  | enter =>
    cases hstep
    split <;> exact h.goOn rfl rfl rfl
  | queue =>
    simp only [step] at hstep
    split at hstep
    · cases hstep
      exact h.goOn rfl rfl rfl
    · next hslot =>
      cases hstep
      exact h.takeSlot hslot
    · cases hstep
      exact h.goOn rfl rfl rfl
    · cases hstep
  | choose =>
    simp only [step] at hstep
    split at hstep
    · next hpop =>
      cases hstep
      exact h.pop_none hpop
    · next conn q hpop =>
      have hheld := h.pop hpop
      split at hstep
      · cases hstep
        exact .congr (p := q) (hheld.letGo rfl rfl rfl) rfl rfl rfl
      · cases hstep
        exact hheld
  | number =>
    cases hstep
    exact h.number
  | dial id =>
    simp only [step] at hstep
    split at hstep
    · cases hstep
      exact h.goOn rfl rfl rfl
    · cases hstep
      exact h.letGo rfl rfl rfl
    · cases hstep
      exact h.letGo rfl rfl rfl
    · cases hstep
  | hold held =>
    simp only [step] at hstep
    split at hstep
    · cases hstep
      split <;> exact h.goOn rfl rfl rfl
    · cases hstep
      exact h.goOn rfl rfl rfl
    · cases hstep
  | returning conn =>
    cases hstep
    split <;> exact h.goOn rfl rfl rfl
  | keep conn =>
    cases hstep
    exact h.push none now
  | discard conn =>
    cases hstep
    exact .congr (p := p) (h.letGo rfl rfl rfl) rfl rfl rfl
  | leave failure =>
    cases hstep
    exact h.giveSlot
  | raiseFlag =>
    cases hstep
    exact .congr (p := p) (h.goOn rfl rfl rfl) rfl rfl rfl
  | closeSlots =>
    cases hstep
    exact .congr (p := p) (h.goOn rfl rfl rfl) rfl rfl rfl
  | clearIdle =>
    cases hstep
    exact h.clearIdle.goOn rfl rfl rfl
  | done failure => cases hstep

namespace PoolSystem

variable {size : Nat} {s : PoolSystem σ}

/-- Somebody new has nothing so far. -/
theorem within_join {task : PoolTask σ} (h : s.pool.Within size s.tasks)
    (hslot : task.holdsSlot = false) (hplace : task.takesPlace = false)
    (hnumber : task.number? = none) : s.pool.Within size (s.tasks ++ [task]) := by
  have hfirst : s.pool.Within size (task :: s.tasks) := by
    refine ⟨?_, ?_, ?_, ?_⟩
    · simpa [List.countP_cons, hslot] using h.slots
    · simpa [List.countP_cons, hplace] using h.places
    · simpa [Pool.numbers, hnumber] using h.distinct
    · simpa [Pool.numbers, hnumber] using h.numbered
  exact hfirst.perm List.perm_append_comm

theorem within_step (h : s.pool.Within size s.tasks) (action : PoolAction σ) :
    (s.step action).pool.Within size (s.step action).tasks := by
  cases action with
  | acquire => exact within_join h rfl rfl rfl
  | close => exact within_join h rfl rfl rfl
  | advance user event span =>
    simp only [step]
    cases htask : s.tasks[user]? with
    | none => exact h
    | some task =>
      cases hnext : task.step s.config ⟨s.now.nanos + span.nanos⟩ event s.pool with
      | none => simpa only [hnext] using h
      | some next =>
        obtain ⟨task', pool⟩ := next
        simp only [hnext]
        obtain ⟨hlt, rfl⟩ := List.getElem?_eq_some_iff.mp htask
        have hfirst := h.perm (List.getElem_cons_eraseIdx_perm hlt)
        exact (PoolTask.within_step hfirst hnext).perm (List.set_perm_cons_eraseIdx hlt task')

theorem within_run (h : s.pool.Within size s.tasks) (actions : List (PoolAction σ)) :
    (s.run actions).pool.Within size (s.run actions).tasks := by
  induction actions generalizing s with
  | nil => exact h
  | cons action actions ih => exact ih (within_step h action)

/-- **Capacity and exclusive ownership.** Whatever the users of a pool do and in whatever order they
take their steps: idle connections and those in somebody's hands or being dialled are together no
more than the pool has slots, no two of them have one number, and every slot is either free or
with a user who is on the way to a connection, has one or is giving one back. -/
theorem capacity (config : Config) (actions : List (PoolAction σ)) :
    let s := (ofConfig config : PoolSystem σ).run actions
    s.pool.idle.length + s.tasks.countP PoolTask.takesPlace ≤ config.poolSize.toNat ∧
      (s.pool.idle.map (·.id) ++ s.tasks.filterMap PoolTask.number?).Nodup ∧
      s.pool.free + s.tasks.countP PoolTask.holdsSlot = config.poolSize.toNat := by
  have h := within_run (s := (ofConfig config : PoolSystem σ)) (.ofSize _) actions
  exact ⟨h.places, h.distinct, h.slots⟩

end PoolSystem

end ColumnWire

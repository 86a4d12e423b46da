import ColumnWire.Migration.Plan

/-!
# What a plan keeps to

Somebody watches a state while a plan is carried out, and knows what an answered call may do to
it (`Effect`). A plan `Meets` a goal if, whatever the answers are as long as they have their
effect, it makes only calls that are allowed at that moment and ends as the goal says. The
watched state may be the database itself, a part of it, or something that only the watcher keeps,
such as the calls made so far. What is met does not depend on who else takes turns in between,
as long as the watched state stays.
-/
namespace ColumnWire.Plan

variable {α β σ τ ε : Type}

/-- What an answered call may do to a state that is watched. -/
abbrev Effect (τ : Type) := (call : Call) → Except Error call.Answer → τ → τ → Prop

variable {effect : Effect τ} {allowed : Call → τ → Prop} {goal goal' : α → τ → Prop} {t : τ}

/-- Only allowed calls are made, and the end is as the goal says. -/
def Meets (effect : Effect τ) (allowed : Call → τ → Prop) (goal : α → τ → Prop) : Plan α → τ → Prop
  | .done a, t => goal a t
  | .ask call next, t =>
    allowed call t ∧ ∀ answer t', effect call answer t t' → Meets effect allowed goal (next answer) t'
  | .clock next, t => ∀ second, Meets effect allowed goal (next second) t

namespace Meets

theorem bind {p : Plan α} {f : α → Plan β} {after : β → τ → Prop} (h : Meets effect allowed goal p t)
    (hf : ∀ a t', goal a t' → Meets effect allowed after (f a) t') :
    Meets effect allowed after (p.bind f) t := by
  induction p generalizing t with
  | done a => exact hf a t h
  | ask call next ih => exact ⟨h.1, fun answer t' heffect => ih answer (h.2 answer t' heffect)⟩
  | clock next ih => exact fun second => ih second (h second)

theorem mono {p : Plan α} (h : Meets effect allowed goal p t) (hgoal : ∀ a t', goal a t' → goal' a t') :
    Meets effect allowed goal' p t := by
  rw [← bind_done p]
  exact h.bind hgoal

theorem allow {allowed' : Call → τ → Prop} {p : Plan α} (h : Meets effect allowed goal p t)
    (hallowed : ∀ call t, allowed call t → allowed' call t) : Meets effect allowed' goal p t := by
  induction p generalizing t with
  | done a => exact h
  | ask call next ih =>
    exact ⟨hallowed call t h.1, fun answer t' heffect => ih answer (h.2 answer t' heffect)⟩
  | clock next ih => exact fun second => ih second (h second)

theorem and {allowed' : Call → τ → Prop} {p : Plan α} (h : Meets effect allowed goal p t)
    (h' : Meets effect allowed' goal' p t) :
    Meets effect (fun call t => allowed call t ∧ allowed' call t) (fun a t => goal a t ∧ goal' a t) p t := by
  induction p generalizing t with
  | done a => exact ⟨h, h'⟩
  | ask call next ih =>
    exact ⟨⟨h.1, h'.1⟩, fun answer t' heffect => ih answer (h.2 answer t' heffect) (h'.2 answer t' heffect)⟩
  | clock next ih => exact fun second => ih second (h second) (h' second)

/-- What holds whenever a call is allowed and in the end holds now. -/
theorem now {p : Plan α} {I : τ → Prop} (h : Meets effect allowed goal p t)
    (hallowed : ∀ call t, allowed call t → I t) (hgoal : ∀ a t, goal a t → I t) : I t := by
  induction p with
  | done a => exact hgoal a t h
  | ask call next ih => exact hallowed call t h.1
  | clock next ih => exact ih 0 (h 0)

/-- A database whose answers have their effect on what a view shows carries the plan out as it
should be. -/
theorem run {p : Plan α} {db : Database σ} {view : σ → τ} {s : σ}
    (h : Meets effect allowed goal p (view s))
    (hdb : ∀ call s, allowed call (view s) →
      effect call (db.answer call s).1 (view s) (view (db.answer call s).2)) :
    goal (p.run db s).1 (view (p.run db s).2) := by
  induction p generalizing s with
  | done a => exact h
  | ask call next ih => exact ih _ (h.2 _ _ (hdb call s h.1))
  | clock next ih => exact ih _ (h (db.second s))

end Meets

/-! ## The calls that are made -/

/-- Watching a plan's calls: each one comes at the end of those before it. -/
def calling : Effect (List Call) := fun call _ calls calls' => calls' = calls ++ [call]

/-- A plan is traced as it was watched, by whatever database. -/
theorem Meets.trace {p : Plan α} {allowed : Call → List Call → Prop} {goal : α → List Call → Prop}
    {calls : List Call} (h : Meets calling allowed goal p calls) (db : Database σ) (s : σ) :
    goal (p.run db s).1 (calls ++ p.trace db s) := by
  induction p generalizing calls s with
  | done a =>
    rw [Plan.trace, List.append_nil]
    exact h
  | ask call next ih =>
    have hrest := ih (db.answer call s).1 (h.2 _ _ rfl) (db.answer call s).2
    rw [List.append_assoc] at hrest
    exact hrest
  | clock next ih => exact ih (db.second s) (h _) s

/-! ## Plans that may fail -/

/-- What is expected of a result, and what of a failure. -/
def Either (ok : α → τ → Prop) (failed : ε → τ → Prop) : Except ε α → τ → Prop
  | .ok a => ok a
  | .error e => failed e

/-- Only allowed calls are made, and the result or the failure is as expected. -/
def MeetsEither (effect : Effect τ) (allowed : Call → τ → Prop) (ok : α → τ → Prop)
    (failed : ε → τ → Prop) (x : ExceptT ε Plan α) (t : τ) : Prop :=
  Meets effect allowed (Either ok failed) x.run t

namespace MeetsEither

variable {ok ok' : α → τ → Prop} {failed failed' : ε → τ → Prop} {x : ExceptT ε Plan α}

theorem pure {a : α} (h : ok a t) : MeetsEither effect allowed ok failed (Pure.pure a) t := h

theorem throw {e : ε} (h : failed e t) : MeetsEither effect allowed ok failed (throw e) t := h

theorem bind {f : α → ExceptT ε Plan β} {after : β → τ → Prop}
    (h : MeetsEither effect allowed ok failed x t)
    (hf : ∀ a t', ok a t' → MeetsEither effect allowed after failed (f a) t') :
    MeetsEither effect allowed after failed (x >>= f) t := by
  refine Meets.bind h ?_
  intro r t' hr
  cases r with
  | ok a => exact hf a t' hr
  | error e => exact hr

theorem mono (h : MeetsEither effect allowed ok failed x t) (hok : ∀ a t', ok a t' → ok' a t')
    (hfailed : ∀ e t', failed e t' → failed' e t') : MeetsEither effect allowed ok' failed' x t := by
  refine Meets.mono h ?_
  intro r t' hr
  cases r with
  | ok a => exact hok a t' hr
  | error e => exact hfailed e t' hr

theorem now {f : Int → ExceptT ε Plan α} (h : ∀ second, MeetsEither effect allowed ok failed (f second) t) :
    MeetsEither effect allowed ok failed (Plan.now >>= f) t := h

end MeetsEither

end ColumnWire.Plan

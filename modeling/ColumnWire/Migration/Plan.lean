import ColumnWire.Block

/-!
# Plans

A plan is what a migrator does to a database: a tree of calls, each with what follows
from its answer. The database is whoever answers the calls; `run` lets one answer them
all, `step` only the first, so that several plans can take turns.
-/
namespace ColumnWire

/-- A request to a database, or to the program around it. -/
inductive Call where
  | exec (sql : String)
  | insert (sql : String) (block : Block)
  | query (sql : String)
  | custom (label : String)
deriving DecidableEq, Inhabited

/-- What a call that succeeds gives. -/
abbrev Call.Answer : Call → Type
  | .query _ => List Block
  | _ => Unit

/-- A tree of calls. -/
inductive Plan (α : Type) where
  | done (result : α)
  | ask (call : Call) (next : Except Error call.Answer → Plan α)
  /-- Ask for the second of the current moment. -/
  | clock (next : Int → Plan α)

namespace Plan

variable {α β σ : Type}

/-- A plan and what follows from its result. -/
def bind : Plan α → (α → Plan β) → Plan β
  | .done a, f => f a
  | .ask call next, f => .ask call fun answer => bind (next answer) f
  | .clock next, f => .clock fun second => bind (next second) f

instance : Monad Plan where
  pure := .done
  bind := bind

/-- Make one call. -/
def call (c : Call) : ExceptT Error Plan c.Answer := ExceptT.mk (.ask c .done)

/-- The second of the current moment. -/
def now {ε : Type} : ExceptT ε Plan Int := ExceptT.mk (.clock fun second => .done (.ok second))

/-- Who answers calls: a state that changes, and a clock. -/
structure Database (σ : Type) where
  answer : (call : Call) → σ → Except Error call.Answer × σ
  second : σ → Int

/-- Carry a plan out. -/
def run (db : Database σ) : Plan α → σ → α × σ
  | .done a, s => (a, s)
  | .ask call next, s =>
    let (answer, s) := db.answer call s
    run db (next answer) s
  | .clock next, s => run db (next (db.second s)) s

/-- The calls that are made, with their answers, and the result. -/
def trace (db : Database σ) : Plan α → σ → List Call
  | .done _, _ => []
  | .ask call next, s =>
    let (answer, s) := db.answer call s
    call :: trace db (next answer) s
  | .clock next, s => trace db (next (db.second s)) s

/-- Carry a plan out up to and including its first call. -/
def step (db : Database σ) : Plan α → σ → Plan α × σ
  | .done a, s => (.done a, s)
  | .ask call next, s =>
    let (answer, s) := db.answer call s
    (next answer, s)
  | .clock next, s => step db (next (db.second s)) s

@[simp] theorem pure_bind (a : α) (f : α → Plan β) : bind (.done a) f = f a := rfl

theorem bind_done (p : Plan α) : bind p .done = p := by
  induction p with
  | done a => rfl
  | ask call next ih => simp [bind, ih]
  | clock next ih => simp [bind, ih]

theorem run_bind (db : Database σ) (p : Plan α) (f : α → Plan β) (s : σ) :
    (bind p f).run db s = (f (p.run db s).1).run db (p.run db s).2 := by
  induction p generalizing s with
  | done a => rfl
  | ask call next ih => simp [bind, run, ih]
  | clock next ih => simp [bind, run, ih]

theorem trace_bind (db : Database σ) (p : Plan α) (f : α → Plan β) (s : σ) :
    (bind p f).trace db s = p.trace db s ++ (f (p.run db s).1).trace db (p.run db s).2 := by
  induction p generalizing s with
  | done a => rfl
  | ask call next ih => simp [bind, run, trace, ih]
  | clock next ih => simp [bind, run, trace, ih]

end Plan

end ColumnWire

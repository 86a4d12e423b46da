import ColumnWire.Connection

/-!
# The pool of connections

A pool has so many slots. Whoever holds a connection holds a slot; idle connections wait
on a stack and hold none. Each definition up to `clearIdle` is one indivisible change of
the state. `choose` and `release` put several of them in order; `Pool/Task` says what may
come between.
-/
namespace ColumnWire

/-- The state that all users of a pool share. -/
structure Pool (σ : Type) where
  /-- Number of slots. -/
  size : Nat
  /-- Slots that nobody holds. -/
  free : Nat
  /-- Whether connections are neither given out nor kept any more. -/
  closed : Bool := false
  /-- Whether slots are not given out any more. -/
  slotsClosed : Bool := false
  /-- The idle connections, the last one that came back first. -/
  idle : List (Connection σ) := []
  /-- The number of the next connection. It is not cut to 64 bits, so no number comes twice; a counter of
  64 bits would be back at the first one after two to the 64th connections. -/
  nextId : Nat := 1
  /-- The connections that have been closed, the last one first. -/
  departed : List (Connection σ) := []

/-- How much of a pool is in use. -/
structure PoolStats where
  size : Nat
  idle : Nat
  inUse : Nat
deriving Repr, DecidableEq, Inhabited

namespace Pool

variable {σ : Type}

/-- A pool without connections. -/
def ofSize (size : Nat) : Pool σ := { size, free := size }

/-- How much is in use. Nothing is in use of a closed pool. -/
def stats (p : Pool σ) : PoolStats :=
  ⟨p.size, p.idle.length, if p.closed then 0 else p.size - p.free⟩

/-! ## Indivisible changes -/

/-- What comes of asking for a slot. -/
inductive SlotAnswer (σ : Type) where
  | closed
  /-- All slots are taken. -/
  | busy
  | granted (p : Pool σ)

/-- Ask for a slot. -/
def takeSlot (p : Pool σ) : SlotAnswer σ :=
  if p.slotsClosed then .closed
  else if p.free = 0 then .busy
  else .granted { p with free := p.free - 1 }

/-- Give a slot back. -/
def giveSlot (p : Pool σ) : Pool σ := { p with free := p.free + 1 }

/-- Number a connection. -/
def number (p : Pool σ) : Nat × Pool σ := (p.nextId, { p with nextId := p.nextId + 1 })

/-- Take a connection off the stack. -/
def pop (p : Pool σ) : Option (Connection σ × Pool σ) :=
  match p.idle with
  | [] => none
  | c :: idle => some (c, { p with idle })

theorem pop_eq_none {p : Pool σ} (h : p.pop = none) : p.idle = [] := by
  unfold pop at h
  split at h
  · assumption
  · cases h

theorem pop_eq_some {p p' : Pool σ} {c : Connection σ} (h : p.pop = some (c, p')) :
    ∃ idle, p.idle = c :: idle ∧ p' = { p with idle } := by
  unfold pop at h
  split at h
  · cases h
  · next first idle hidle =>
    cases h
    exact ⟨idle, hidle, rfl⟩

/-- Put a connection on the stack. -/
def push (c : Connection σ) (p : Pool σ) : Pool σ := { p with idle := c :: p.idle }

/-- Close a connection. -/
def depart (c : Connection σ) (p : Pool σ) : Pool σ := { p with departed := c :: p.departed }

/-- Neither give out connections nor keep them from now on. -/
def raiseFlag (p : Pool σ) : Pool σ := { p with closed := true }

/-- Give out no slots from now on. -/
def closeSlots (p : Pool σ) : Pool σ := { p with slotsClosed := true }

/-- Close the idle connections. -/
def clearIdle (p : Pool σ) : Pool σ :=
  { p with idle := [], departed := p.idle ++ p.departed }

/-! ## Changes in order -/

/-- Take the last connection that came back off the stack, and close those on the way to it that
have been idle for too long. -/
def choose (isExpired : Connection σ → Bool) (p : Pool σ) : Option (Connection σ) × Pool σ :=
  match _h : p.pop with
  | none => (none, p)
  | some (c, p) => if isExpired c then choose isExpired (p.depart c) else (some c, p)
termination_by p.idle.length
decreasing_by
  obtain ⟨idle, hidle, rfl⟩ := pop_eq_some _h
  simp [depart, hidle]

/-- Close a connection that somebody holds. -/
def remove (c : Connection σ) (p : Pool σ) : Pool σ := (p.depart c).giveSlot

/-- Take back a connection that somebody holds. It is closed if a failure has spoiled it, or if the
pool is closed. -/
def release (now : Duration) (failure : Option Error) (c : Connection σ) (p : Pool σ) : Pool σ :=
  if failure.any Error.spoilsConnection then p.remove c
  else if p.closed then p.remove c
  else (p.push { c with lastUsed := now }).giveSlot

/-- Close the pool. Connections that are in use are closed when they come back. -/
def close (p : Pool σ) : Pool σ := p.raiseFlag.closeSlots.clearIdle

end Pool

end ColumnWire

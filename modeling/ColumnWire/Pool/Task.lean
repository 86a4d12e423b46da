import ColumnWire.Client

/-!
# Several users of one pool

Users of a pool run side by side, and the pool is theirs together. What each of them does
is cut into steps, each with at most one indivisible change of the pool, and the steps of
different users come in any order. `System.run` carries out one order; `acquire_alone` says
that a user who is alone gets the connection that `Client.acquire` gives.
-/
namespace ColumnWire

/-- What a user of a pool is about to do. -/
inductive PoolTask (σ : Type) where
  /-- Check out a connection, unless the pool is closed. -/
  | enter
  /-- Wait for a slot. -/
  | queue
  /-- With a slot at hand, look for an idle connection. -/
  | choose
  /-- With a slot at hand, number a new connection. -/
  | number
  /-- With a slot at hand, connect. -/
  | dial (id : Nat)
  /-- Work with a connection, and hold its slot. -/
  | hold (conn : Connection σ)
  /-- Give a connection back, unless the pool is closed. -/
  | returning (conn : Connection σ)
  /-- Put a connection on the stack, and then give its slot back. -/
  | keep (conn : Connection σ)
  /-- Close a connection, and then give its slot back. -/
  | discard (conn : Connection σ)
  /-- Give a slot back. -/
  | leave (failure : Option Error)
  /-- Close the pool. -/
  | raiseFlag
  /-- Close the slots of a pool whose flag is up. -/
  | closeSlots
  /-- Close the idle connections of a pool whose slots are closed. -/
  | clearIdle
  /-- Nothing more. -/
  | done (failure : Option Error)

/-- What a user decides, or learns from outside the pool, when it takes a step. -/
inductive PoolEvent (σ : Type) where
  /-- Nothing in particular. -/
  | go
  /-- The wait for a slot has been long enough. -/
  | giveUp
  /-- An attempt to connect has come to an end. -/
  | dialled (outcome : Dial σ)
  /-- The work is done. It has changed the connection, and may have met a failure. -/
  | finished (conn : Connection σ) (failure : Option Error)
  /-- The connection is not wanted any more. -/
  | removed (conn : Connection σ)

namespace PoolTask

variable {σ : Type}

/-- Take one step, if the event allows one. -/
def step (config : Config) (now : Duration) (event : PoolEvent σ) (p : Pool σ) :
    PoolTask σ → Option (PoolTask σ × Pool σ)
  | .enter => some (if p.closed then .done (some .poolClosed) else .queue, p)
  | .queue =>
    match p.takeSlot, event with
    | .closed, _ => some (.done (some .poolClosed), p)
    | .granted p, _ => some (.choose, p)
    | .busy, .giveUp => some (.done (some .poolTimeout), p)
    | .busy, _ => none
  | .choose =>
    match p.pop with
    | none => some (.number, p)
    | some (conn, p) =>
      if conn.isExpired config.idleLimit now then some (.choose, p.depart conn)
      else some (.hold conn, p)
  | .number => some (.dial p.number.1, p.number.2)
  | .dial id =>
    match event with
    | .dialled (.connected peer) => some (.hold (.fresh config id peer now), p)
    | .dialled (.failed fault) => some (.leave (some (.connect config.address fault)), p)
    | .dialled .silent => some (.leave (some (.timeout (config.dialLimit.getD ⟨0⟩))), p)
    | _ => none
  | .hold held =>
    match event with
    | .finished conn failure =>
      let conn := { conn with id := held.id }
      some (if failure.any Error.spoilsConnection then .discard conn else .returning conn, p)
    | .removed conn => some (.discard { conn with id := held.id }, p)
    | _ => none
  | .returning conn => some (if p.closed then .discard conn else .keep conn, p)
  | .keep conn => some (.leave none, p.push { conn with lastUsed := now })
  | .discard conn => some (.leave none, p.depart conn)
  | .leave failure => some (.done failure, p.giveSlot)
  | .raiseFlag => some (.closeSlots, p.raiseFlag)
  | .closeSlots => some (.clearIdle, p.closeSlots)
  | .clearIdle => some (.done none, p.clearIdle)
  | .done _ => none

/-! ## A user who is alone -/

/-- What a user learns who waits for nobody else. -/
def lone (network : Network σ) : PoolTask σ → PoolEvent σ
  | .queue => .giveUp
  | .dial id => .dialled (network id)
  | _ => .go

/-- What comes of so many steps of a user who is alone. -/
def walk (config : Config) (now : Duration) (network : Network σ) :
    Nat → PoolTask σ × Pool σ → PoolTask σ × Pool σ
  | 0, s => s
  | n + 1, (task, p) =>
    match task.step config now (task.lone network) p with
    | none => (task, p)
    | some s => walk config now network n s

/-- What a user has who has asked for a connection. -/
def ofAcquire : EStateM.Result Error (Client σ) (Connection σ) → PoolTask σ × Pool σ
  | .ok conn c => (.hold conn, c.pool)
  | .error e c => (.done (some e), c.pool)

theorem walk_number (c : Client σ) : ∃ n, walk c.config c.now c.network n (.number, c.pool) =
    ofAcquire (c.dial) := by
  rcases hd : c.network c.pool.number.1 with peer | fault | _
  · exact ⟨2, by simp [walk, step, lone, Client.dial, ofAcquire, hd]⟩
  · exact ⟨3, by simp [walk, step, lone, Client.dial, ofAcquire, hd]⟩
  · exact ⟨3, by simp [walk, step, lone, Client.dial, ofAcquire, hd]⟩

theorem walk_choose (c : Client σ) : ∃ n, walk c.config c.now c.network n (.choose, c.pool) =
    ofAcquire c.pick := by
  obtain ⟨config, hostname, network, pool, now⟩ := c
  simp only [Client.pick]
  fun_induction Pool.choose (Connection.isExpired config.idleLimit now) pool with
  | case1 p hp =>
    obtain ⟨n, hn⟩ := walk_number ⟨config, hostname, network, p, now⟩
    exact ⟨n + 1, by simpa [walk, step, hp] using hn⟩
  | case2 p conn q hp hexp ih =>
    obtain ⟨n, hn⟩ := ih
    exact ⟨n + 1, by simpa [walk, step, hp, hexp] using hn⟩
  | case3 p conn q hp hexp => exact ⟨1, by simp [walk, step, hp, hexp, ofAcquire]⟩

/-- A user who is alone gets the connection that `Client.acquire` gives, or its failure. -/
theorem acquire_alone (c : Client σ) : ∃ n, walk c.config c.now c.network n (.enter, c.pool) =
    ofAcquire c.acquire := by
  by_cases hc : c.pool.closed
  · exact ⟨1, by simp [walk, step, Client.acquire, ofAcquire, hc]⟩
  · rcases hs : c.pool.takeSlot with _ | _ | p
    · exact ⟨2, by simp [walk, step, Client.acquire, ofAcquire, hc, hs]⟩
    · exact ⟨2, by simp [walk, step, lone, Client.acquire, ofAcquire, hc, hs]⟩
    · obtain ⟨n, hn⟩ := walk_choose { c with pool := p }
      exact ⟨n + 2, by simpa [walk, step, Client.acquire, hc, hs] using hn⟩

/-! ## What a user has -/

/-- Whether the user holds a slot. -/
def holdsSlot : PoolTask σ → Bool
  | .choose | .number | .dial _ | .hold _ | .returning _ | .keep _ | .discard _ | .leave _ => true
  | _ => false

end PoolTask

/-- A pool and its users. -/
structure PoolSystem (σ : Type) where
  config : Config
  pool : Pool σ
  tasks : List (PoolTask σ) := []
  now : Duration := ⟨0⟩

/-- What happens next in a system. -/
inductive PoolAction (σ : Type) where
  /-- Somebody wants a connection. -/
  | acquire
  /-- Somebody closes the pool. -/
  | close
  /-- A user takes a step, and that much time has gone by. -/
  | advance (user : Nat) (event : PoolEvent σ) (span : Duration)

namespace PoolSystem

variable {σ : Type}

/-- A pool that nobody uses. -/
def ofConfig (config : Config) : PoolSystem σ := { config, pool := .ofSize config.poolSize.toNat }

/-- What follows from an action; nothing does if it is not possible. -/
def step (s : PoolSystem σ) : PoolAction σ → PoolSystem σ
  | .acquire => { s with tasks := s.tasks ++ [.enter] }
  | .close => { s with tasks := s.tasks ++ [.raiseFlag] }
  | .advance user event span =>
    let now : Duration := ⟨s.now.nanos + span.nanos⟩
    match s.tasks[user]? with
    | none => s
    | some task =>
      match task.step s.config now event s.pool with
      | none => s
      | some (task, pool) => { s with pool, now, tasks := s.tasks.set user task }

/-- What follows from actions one after another. -/
def run (s : PoolSystem σ) (actions : List (PoolAction σ)) : PoolSystem σ := actions.foldl step s

end PoolSystem

end ColumnWire

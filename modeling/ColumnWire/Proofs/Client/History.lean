import ColumnWire.Proofs.Stream.Outcome
import ColumnWire.RowStream

/-!
# Histories of a client

A client, the streams that it has opened and the requests that it has begun are one system. Its
actions come in any order: several streams may be open at once, and a request may be carried out
as a whole, or it may get its connection now and use it later, when others have come and gone.
`ask_eq` says that the first is the second with nothing in between. An action on a stream or a
request that does not exist changes nothing.
-/
namespace ColumnWire

/-- What a client can be asked for. -/
inductive ClientRequest where
  | serverInfo
  | ping
  | exec (sql : String)
  | insert (sql : String) (block : Block)
  | queryBlocks (sql : String)
  /-- Open a stream. -/
  | query (sql : String)

/-- A request that has its connection, and has done nothing with it so far. -/
structure Begun (σ : Type) where
  request : ClientRequest
  connection : Connection σ

/-- A client, the streams it has opened, and the requests it has begun, the first one first. -/
structure ClientSystem (σ : Type) where
  client : Client σ
  streams : List (RowStream σ) := []
  begun : List (Begun σ) := []

/-- What happens next with a client and its streams. -/
inductive ClientAction where
  /-- Carry out a request. -/
  | ask (request : ClientRequest)
  /-- Begin a request: it gets its connection. -/
  | begin (request : ClientRequest)
  /-- Carry out the rest of a request that has begun. -/
  | finish (request : Nat)
  /-- Give up a request that has begun. -/
  | abandon (request : Nat)
  /-- Pull the next block of a stream. -/
  | next (stream : Nat)
  /-- Pull the next block of a stream into a given one. -/
  | nextInto (stream : Nat) (block : Block)
  /-- Stop reading a stream. -/
  | stop (stream : Nat)
  /-- Give up a stream. -/
  | drop (stream : Nat)
  /-- Let time go by. -/
  | wait (span : Duration)
  /-- Close the pool. -/
  | close

variable {σ α : Type}

/-- The client when a session is over. -/
def Session.after (x : Session σ α) (c : Client σ) : Client σ :=
  match x c with
  | .ok _ c' | .error _ c' => c'

theorem Session.after_bind {β : Type} (x : Session σ α) (f : α → Session σ β) (c : Client σ) :
    (x >>= f).after c = match x c with
      | .ok a c' => (f a).after c'
      | .error _ c' => c' := by
  show (match EStateM.bind x f c with | .ok _ c' | .error _ c' => c') = _
  rw [EStateM.bind]
  cases x c with
  | ok a c' => rfl
  | error e c' => rfl

namespace ClientSystem

/-- The connections of the streams that are open. -/
def opened (streams : List (RowStream σ)) : List (Connection σ) :=
  streams.filterMap RowStream.connection

/-- The connections that somebody holds: open streams and requests that have begun. -/
def held (s : ClientSystem σ) : List (Connection σ) :=
  opened s.streams ++ s.begun.map (·.connection)

/-- All connections there are or have been: held ones, idle ones and closed ones. -/
def connections (s : ClientSystem σ) : List (Connection σ) :=
  s.held ++ (s.client.pool.idle ++ s.client.pool.departed)

/-- A new stream takes its connection besides those of the others. -/
theorem opened_append (streams : List (RowStream σ)) (rows : RowStream σ) :
    opened (streams ++ [rows]) = opened streams ++ rows.connection.toList := by
  rw [opened, List.filterMap_append, opened]
  cases hconn : rows.connection <;> simp [hconn]

/-- One stream changes, and the others hold what they have held. -/
theorem opened_set {streams : List (RowStream σ)} {i : Nat} {rows : RowStream σ}
    (h : streams[i]? = some rows) (rows' : RowStream σ) : ∃ others,
      (opened streams).Perm (rows.connection.toList ++ others) ∧
        (opened (streams.set i rows')).Perm (rows'.connection.toList ++ others) := by
  have hmiddle : ∀ (first last : List (RowStream σ)) (r : RowStream σ),
      (opened (first ++ r :: last)).Perm (r.connection.toList ++ (opened first ++ opened last)) := by
    intro first last r
    rw [opened, List.filterMap_append, ← List.singleton_append, List.filterMap_append,
      ← List.append_assoc, ← List.append_assoc]
    have hone : [r].filterMap RowStream.connection = r.connection.toList := by
      cases hconn : r.connection <;> simp [hconn]
    rw [hone]
    exact List.perm_append_comm.append_right _
  obtain ⟨hi, hget⟩ := List.getElem?_eq_some_iff.mp h
  obtain ⟨first, last, hsplit, -, hset⟩ := @List.exists_of_set _ i rows' streams hi
  rw [hget] at hsplit
  refine ⟨opened first ++ opened last, ?_, ?_⟩
  · rw [hsplit]
    exact hmiddle first last rows
  · rw [hset]
    exact hmiddle first last rows'

/-- A request that has begun holds its connection besides those of the others. -/
theorem begun_perm {begun : List (Begun σ)} {i : Nat} {b : Begun σ} (h : begun[i]? = some b) :
    begun.Perm (b :: begun.eraseIdx i) := by
  obtain ⟨hi, hget⟩ := List.getElem?_eq_some_iff.mp h
  obtain ⟨first, last, hsplit, hlength, -⟩ := @List.exists_of_set _ i b begun hi
  rw [hget] at hsplit
  have herase : begun.eraseIdx i = first ++ last := by
    rw [hsplit, ← hlength, List.eraseIdx_append_of_length_le (Nat.le_refl _), Nat.sub_self]
    rfl
  rw [herase, hsplit]
  exact List.perm_middle

variable [Source σ]

/-! ## Requests -/

/-- Run a query, and add its answer to the streams if there is one. -/
def openStream (query : Session σ (RowStream σ)) (s : ClientSystem σ) : ClientSystem σ :=
  match query s.client with
  | .ok rows client => { s with client, streams := s.streams ++ [rows] }
  | .error _ client => { s with client }

/-- Carry out a request. -/
def ask (s : ClientSystem σ) : ClientRequest → ClientSystem σ
  | .serverInfo => { s with client := Client.serverInfo.after s.client }
  | .ping => { s with client := Client.ping.after s.client }
  | .exec sql => { s with client := (Client.exec sql).after s.client }
  | .insert sql block => { s with client := (Client.insert sql block).after s.client }
  | .queryBlocks sql => { s with client := (Client.queryBlocks sql).after s.client }
  | .query sql => s.openStream (Client.query sql)

/-- Carry out a request on a connection that is checked out. -/
def perform (conn : Connection σ) (s : ClientSystem σ) : ClientRequest → ClientSystem σ
  | .serverInfo => { s with client := (Client.exchangeOn Client.serverInfoOn conn).after s.client }
  | .ping => { s with client := (Client.exchangeOn Client.pingOn conn).after s.client }
  | .exec sql => { s with client := (Client.exchangeOn (Client.execOn sql) conn).after s.client }
  | .insert sql block =>
    { s with client := (Client.exchangeOn (Client.insertOn sql block) conn).after s.client }
  | .queryBlocks sql => { s with client := (Client.queryBlocksOn sql conn).after s.client }
  | .query sql => s.openStream (Client.queryOn sql conn)

/-- A request is carried out on the connection that it checks out. -/
theorem ask_eq (s : ClientSystem σ) (request : ClientRequest) :
    s.ask request = match Client.acquire s.client with
      | .ok conn client => ({ s with client } : ClientSystem σ).perform conn request
      | .error _ client => { s with client } := by
  have hquery : ∀ f : Connection σ → Session σ (RowStream σ),
      s.openStream (Client.acquire >>= f) = match Client.acquire s.client with
        | .ok conn client => ({ s with client } : ClientSystem σ).openStream (f conn)
        | .error _ client => { s with client } := by
    intro f
    cases hacquire : Client.acquire s.client with
    | ok conn client => simp only [openStream, bind_of_eq_ok hacquire]
    | error e client =>
      have hfailed : (Client.acquire >>= f) s.client = .error e client :=
        bind_eq_error.mpr (.inl hacquire)
      simp only [openStream, hfailed]
  cases request with
  | serverInfo =>
    rw [ask, Client.serverInfo, Client.exchange, Session.after_bind]
    cases Client.acquire s.client <;> rfl
  | ping =>
    rw [ask, Client.ping, Client.exchange, Session.after_bind]
    cases Client.acquire s.client <;> rfl
  | exec sql =>
    rw [ask, Client.exec, Client.exchange, Session.after_bind]
    cases Client.acquire s.client <;> rfl
  | insert sql block =>
    rw [ask, Client.insert, Client.exchange, Session.after_bind]
    cases Client.acquire s.client <;> rfl
  | queryBlocks sql =>
    rw [ask, Client.queryBlocks, Session.after_bind]
    cases Client.acquire s.client <;> rfl
  | query sql => exact hquery _

/-- Let a request have its connection. -/
def begin (request : ClientRequest) (s : ClientSystem σ) : ClientSystem σ :=
  match Client.acquire s.client with
  | .ok connection client => { s with client, begun := s.begun ++ [{ request, connection }] }
  | .error _ client => { s with client }

/-- Carry out the rest of a request. -/
def finish (i : Nat) (s : ClientSystem σ) : ClientSystem σ :=
  match s.begun[i]? with
  | none => s
  | some b => ({ s with begun := s.begun.eraseIdx i } : ClientSystem σ).perform b.connection b.request

/-- Give up a request: its connection is closed. -/
def abandon (i : Nat) (s : ClientSystem σ) : ClientSystem σ :=
  match s.begun[i]? with
  | none => s
  | some b => { s with client := s.client.remove b.connection, begun := s.begun.eraseIdx i }

/-! ## Actions -/

/-- Do something with a stream. -/
def withStream (i : Nat) (act : RowStream σ × Client σ → RowStream σ × Client σ)
    (s : ClientSystem σ) : ClientSystem σ :=
  match s.streams[i]? with
  | none => s
  | some rows =>
    let after := act (rows, s.client)
    { s with client := after.2, streams := s.streams.set i after.1 }

/-- What follows from an action. -/
def step (s : ClientSystem σ) : ClientAction → ClientSystem σ
  | .ask request => s.ask request
  | .begin request => s.begin request
  | .finish i => s.finish i
  | .abandon i => s.abandon i
  | .next i => s.withStream i fun s => (RowStream.next s).2
  | .nextInto i block => s.withStream i fun s => (RowStream.nextInto block s).2
  | .stop i => s.withStream i fun s => (RowStream.close s).2
  | .drop i => s.withStream i fun s => (RowStream.drop s).2
  | .wait span => { s with client := s.client.wait span }
  | .close => { s with client := s.client.close }

/-- What follows from actions one after another. -/
def run (s : ClientSystem σ) (history : List ClientAction) : ClientSystem σ := history.foldl step s

/-- What every action keeps holds after every history. -/
theorem run_induction {P : ClientSystem σ → Prop} (hstep : ∀ s action, P s → P (s.step action))
    {s : ClientSystem σ} (hs : P s) (history : List ClientAction) : P (s.run history) := by
  induction history generalizing s with
  | nil => exact hs
  | cons action history ih => exact ih (hstep s action hs)

end ClientSystem

end ColumnWire

import ColumnWire.Client

/-!
# Streams of rows

The answer to a query is pulled block by block. A stream holds its connection while it
is open. It gives the connection back at the end of the answer and on the first failure,
which it remembers; a stream that is closed early asks the server to stop and reads what
is left, and one that is dropped while open closes its connection.
-/
namespace ColumnWire

/-- The answer to a query, as far as it has not been pulled. -/
structure RowStream (σ : Type) where
  /-- The connection of a stream that is open. -/
  connection : Option (Connection σ)
  /-- The failure that a pull met. -/
  failure : Option Error := none

/-- A computation with a stream and the client that it belongs to. -/
abbrev Pulling (σ : Type) := StateM (RowStream σ × Client σ)

namespace RowStream

variable {σ : Type} [Source σ]

/-- Whether the stream has given its connection up. -/
def isClosed (rows : RowStream σ) : Bool := rows.connection.isNone

/-- Pull the next block into a given one. There is none once the stream is closed. -/
def nextInto (block : Block) : Pulling σ (Bool × Block) := fun (rows, c) =>
  match rows.connection with
  | none => ((false, block), rows, c)
  | some conn =>
    match conn.reply Policy.nextBlock c.exceptionLimit { block } with
    | (.ok true, tray, conn) => ((true, tray.block), { rows with connection := some conn }, c)
    | (.ok false, tray, conn) =>
      ((false, tray.block), { rows with connection := none }, c.release none conn)
    | (.error e, tray, conn) =>
      ((false, tray.block), ⟨none, some e⟩, c.release (some e) conn)

/-- Pull the next block, if there is one. -/
def next : Pulling σ (Option Block) := fun s =>
  match nextInto .empty s with
  | ((true, block), s) => (some block, s)
  | ((false, _), s) => (none, s)

/-- Ask the server to stop, and read what is left of the answer. -/
def cancel (limit : Nat) : Dialogue σ Unit := do
  Connection.write Request.cancel
  Connection.flush
  Connection.answer Policy.drain limit

/-- Close the stream. An exception also ends the answer, so it is no failure here. -/
def close : Pulling σ (Except Error Unit) := fun (rows, c) =>
  match rows.connection with
  | none => (.ok (), rows, c)
  | some conn =>
    let rows := { rows with connection := none }
    match cancel c.exceptionLimit conn with
    | .ok () conn => (.ok (), rows, c.release none conn)
    | .error e conn =>
      if e.spoilsConnection then (.error e, rows, c.remove conn)
      else (.ok (), rows, c.release none conn)

/-- Give the stream up. -/
def drop : Pulling σ Unit := fun (rows, c) =>
  match rows.connection with
  | none => ((), rows, c)
  | some conn => ((), { rows with connection := none }, c.remove conn)

/-! ## Pulling everything -/

/-- A bound on the bytes that the stream can still read. -/
def left (rows : RowStream σ) : Nat :=
  match rows.connection with
  | some conn => conn.reader.left
  | none => 0

/-- Each block that is pulled takes at least one byte. -/
theorem left_nextInto {block block' : Block} {s s' : RowStream σ × Client σ}
    (h : nextInto block s = ((true, block'), s')) : s'.1.left < s.1.left := by
  obtain ⟨rows, c⟩ := s
  unfold nextInto at h
  cases hc : rows.connection with
  | none => simp only [hc] at h; cases h
  | some conn =>
    simp only [hc, Connection.reply] at h
    cases hr : Policy.nextBlock.run c.exceptionLimit (conn.reader, ({ block } : Tray)) with
    | error e s => simp only [hr] at h; cases h
    | ok found s =>
      simp only [hr] at h
      cases found with
      | false => cases h
      | true =>
        have := (Policy.spends_run Policy.nextBlock c.exceptionLimit).of_ok hr
        cases h
        simp only [left, hc, Builder.left] at *
        omega

theorem left_next {block : Block} {s s' : RowStream σ × Client σ}
    (h : next s = (some block, s')) : s'.1.left < s.1.left := by
  unfold next at h
  rcases hn : nextInto .empty s with ⟨⟨_ | _, block'⟩, s₁⟩ <;> simp only [hn] at h <;> cases h
  exact left_nextInto hn

/-- Pull all blocks there are, behind those in `pulled`, of which the last one comes first. -/
def pullAll (pulled : List Block) (s : RowStream σ × Client σ) :
    List Block × RowStream σ × Client σ :=
  match _h : next s with
  | (none, s) => (pulled.reverse, s)
  | (some block, s) => pullAll (block :: pulled) s
termination_by s.1.left
decreasing_by exact left_next _h

end RowStream

namespace Client

variable {σ : Type} [Source σ]

/-- Send a query. Its answer is there to be pulled, unless the query cannot be sent. -/
def openRows (sql : String) (conn : Connection σ) : Session σ (RowStream σ) := fun c =>
  match c.sendQuery sql conn with
  | .ok () conn => .ok ⟨some conn, none⟩ c
  | .error e conn => .error e (c.release (some e) conn)

/-- Run a query on a connection that is checked out. -/
def queryOn (sql : String) (conn : Connection σ) : Session σ (RowStream σ) :=
  welcome conn >>= openRows sql

/-- Run a query. -/
def query (sql : String) : Session σ (RowStream σ) := acquire >>= queryOn sql

/-- Pull the whole answer; blocks without rows are left out. -/
def collect (rows : RowStream σ) : Session σ (List Block) := fun c =>
  let (blocks, rows, c) := RowStream.pullAll [] (rows, c)
  match rows.failure with
  | some e => .error e c
  | none => .ok (blocks.filter (0 < ·.rows)) c

/-- Run a query on a connection that is checked out, and pull its whole answer. -/
def queryBlocksOn (sql : String) (conn : Connection σ) : Session σ (List Block) :=
  queryOn sql conn >>= collect

/-- Run a query and pull its whole answer. -/
def queryBlocks (sql : String) : Session σ (List Block) := acquire >>= queryBlocksOn sql

end Client

end ColumnWire

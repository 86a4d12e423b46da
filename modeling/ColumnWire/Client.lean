import ColumnWire.Pool
import ColumnWire.Text.Quoted

/-!
# The client

A client checks out a connection for every request, greets the server if the connection
is new, and gives it back with the failure that the request met, if it met one. A
greeting that fails closes its connection whatever the failure is.
-/
namespace ColumnWire

/-- What becomes of an attempt to connect. -/
inductive Dial (σ : Type) where
  | connected (peer : Peer σ)
  /-- Nobody can be reached. -/
  | failed (fault : IoFault)
  /-- Nobody answers. -/
  | silent

/-- What becomes of the attempt with a given number. -/
abbrev Network (σ : Type) := Nat → Dial σ

/-- A client of a server. -/
structure Client (σ : Type) where
  config : Config
  /-- The host name that queries report. -/
  hostname : String
  network : Network σ
  pool : Pool σ
  /-- The time since the client was made. -/
  now : Duration := ⟨0⟩

/-- A computation that works with a client. -/
abbrev Session (σ : Type) := EStateM Error (Client σ)

namespace Client

variable {σ α : Type}

/-- A client, if its configuration can be used. Queries report the name of the machine unless the
configuration has another one. -/
def ofConfig (config : Config) (machine : String) (network : Network σ) :
    Except Error (Client σ) := do
  config.validate
  return { config, hostname := config.hostname.getD machine, network,
           pool := .ofSize config.poolSize.toNat }

/-- Most records of an exception. -/
def exceptionLimit (c : Client σ) : Nat := c.config.exceptionDepth.toNat

/-- Let time go by. -/
def wait (span : Duration) (c : Client σ) : Client σ := { c with now := ⟨c.now.nanos + span.nanos⟩ }

/-! ## Connections -/

/-- Give back a connection, with the failure that its last use met. -/
def release (failure : Option Error) (conn : Connection σ) (c : Client σ) : Client σ :=
  { c with pool := c.pool.release c.now failure conn }

/-- Close a connection. -/
def remove (conn : Connection σ) (c : Client σ) : Client σ := { c with pool := c.pool.remove conn }

/-- Refuse further requests, and close the idle connections. -/
def close (c : Client σ) : Client σ := { c with pool := c.pool.close }

/-- Connect, with a slot at hand; it is given back if nobody can be reached. -/
def dial : Session σ (Connection σ) := fun c =>
  let (id, pool) := c.pool.number
  match c.network id with
  | .connected peer => .ok (.fresh c.config id peer c.now) { c with pool }
  | .failed fault => .error (.connect c.config.address fault) { c with pool := pool.giveSlot }
  | .silent =>
    .error (.timeout (c.config.dialLimit.getD ⟨0⟩)) { c with pool := pool.giveSlot }

/-- With a slot at hand, take an idle connection, or else a new one. -/
def pick : Session σ (Connection σ) := fun c =>
  match c.pool.choose (Connection.isExpired c.config.idleLimit c.now) with
  | (some conn, pool) => .ok conn { c with pool }
  | (none, pool) => dial { c with pool }

/-- Check out a connection. A wait for a slot ends when its limit has gone by; without a limit it has
no outcome, and the same failure stands for it. -/
def acquire : Session σ (Connection σ) := fun c =>
  if c.pool.closed then .error .poolClosed c
  else
    match c.pool.takeSlot with
    | .closed => .error .poolClosed c
    | .busy => .error .poolTimeout c
    | .granted pool => pick { c with pool }

variable [Source σ]

/-- Greet the server of a connection that is checked out, unless it has been greeted. -/
def welcome (conn : Connection σ) : Session σ (Connection σ) :=
  match conn.server with
  | some _ => return conn
  | none => fun c =>
    match conn.greet c.config with
    | .ok _ conn => .ok conn c
    | .error e conn => .error e (c.remove conn)

/-- Do something with a connection and give it back, with the failure that it met if it met one. -/
def converse (talk : Client σ → Dialogue σ α) (conn : Connection σ) : Session σ α := fun c =>
  match talk c conn with
  | .ok a conn => .ok a (c.release none conn)
  | .error e conn => .error e (c.release (some e) conn)

/-- Do something with a connection that is checked out. -/
def exchangeOn (talk : Client σ → Dialogue σ α) (conn : Connection σ) : Session σ α :=
  welcome conn >>= converse talk

/-- Check out a connection and do something with it. -/
def exchange (talk : Client σ → Dialogue σ α) : Session σ α := acquire >>= exchangeOn talk

/-! ## Requests -/

/-- Send a query, and the empty block that ends its data. -/
def sendQuery (sql : String) (c : Client σ) : Dialogue σ Unit := do
  Connection.write (Request.query c.config.compression c.hostname c.config.settings sql)
  Connection.write (Request.data c.config.compression none)
  Connection.flush

/-- Look up who the server is. -/
def serverInfoOn (_ : Client σ) : Dialogue σ ServerInfo := fun conn => .ok (conn.server.getD {}) conn

/-- Who the server is. -/
def serverInfo : Session σ ServerInfo := exchange serverInfoOn

/-- Ask whether the server is there, and wait for its answer. -/
def pingOn (c : Client σ) : Dialogue σ Unit := do
  Connection.write Request.ping
  Connection.flush
  Connection.answer Policy.pong c.exceptionLimit

/-- Ask whether the server is there. -/
def ping : Session σ Unit := exchange pingOn

/-- Send a statement, and count the rows of all blocks that come back. -/
def execOn (sql : String) (c : Client σ) : Dialogue σ Nat := do
  c.sendQuery sql
  let rows ← Connection.answer Policy.rowCount c.exceptionLimit
  return rows.getD 0

/-- Run a statement, and count the rows of all blocks that come back. -/
def exec (sql : String) : Session σ Nat := exchange (execOn sql)

/-- Send a statement that takes the rows of a block, and count them. The block is sent once the server
has told what columns it expects. -/
def insertOn (sql : String) (block : Block) (c : Client σ) : Dialogue σ Nat := do
  c.sendQuery sql
  let _ ← Connection.answer Policy.sampleBlock c.exceptionLimit
  Connection.write (Request.data c.config.compression (some block))
  Connection.write (Request.data c.config.compression none)
  Connection.flush
  let packet ← Connection.answer Policy.onePacket c.exceptionLimit
  if packet ≠ .endOfStream then
    let _ ← Connection.answer Policy.rowCount c.exceptionLimit
  return block.rows

/-- Run a statement that takes the rows of a block, and count them. -/
def insert (sql : String) (block : Block) : Session σ Nat := exchange (insertOn sql block)

end Client

end ColumnWire

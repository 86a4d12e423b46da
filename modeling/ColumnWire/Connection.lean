import ColumnWire.Config
import ColumnWire.Reply
import ColumnWire.Request
import ColumnWire.Stream.Writer

/-!
# Connections

A connection reads from its peer, gathers requests in a writer and hands each over at
once. It is told who the server is by the exchange of hellos (`greet`), which comes
before everything else. What a dialogue does to the connection stays when it fails.
-/
namespace ColumnWire

/-- The other end of a connection. -/
structure Peer (σ : Type) where
  /-- The bytes that arrive from it. -/
  source : σ
  /-- How it receives the requests, one after another; those that are not listed it takes. -/
  sinks : List Sink := []

/-- A connection to a server. -/
structure Connection (σ : Type) where
  id : Nat
  reader : Reader σ
  writer : Writer := {}
  /-- How the peer will receive the next requests. -/
  sinks : List Sink := []
  /-- How long to wait for the peer to receive a request. -/
  writeLimit : Option Duration := none
  /-- The requests that were handed over, the first one first. -/
  sent : List Bytes := []
  /-- Where the reader stood when each of them was handed over. It is a record for proofs: nothing that is
  done depends on it. -/
  marks : List (Reader σ) := []
  /-- Who the server is, once it has said so. -/
  server : Option ServerInfo := none
  /-- When the connection was last in use. -/
  lastUsed : Duration := ⟨0⟩

/-- A computation that talks to the peer. -/
abbrev Dialogue (σ : Type) := EStateM Error (Connection σ)

namespace Connection

variable {σ α : Type}

/-- A connection with nothing written or read. -/
def fresh (config : Config) (id : Nat) (peer : Peer σ) (now : Duration) : Connection σ where
  id
  reader := { source := peer.source, limit := config.readLimit, compression := config.compression }
  writer := { compression := config.compression }
  sinks := peer.sinks
  writeLimit := config.writeLimit
  lastUsed := now

/-- Whether the connection has been idle for longer than a limit. -/
def isExpired (limit : Option Duration) (now : Duration) (c : Connection σ) : Bool :=
  match limit with
  | some limit => limit.nanos < now.nanos - c.lastUsed.nanos
  | none => false

/-! ## Dialogues -/

/-- Add to the next request. -/
def write (bs : Bytes) : Dialogue σ Unit := fun c => .ok () { c with writer := c.writer.append bs }

/-- Hand the request over. -/
def flush : Dialogue σ Unit := fun c =>
  match c.writer.flush (c.sinks.headD .ready) c.writeLimit with
  | (.ok bs, writer) =>
    .ok () { c with
      writer
      sinks := c.sinks.tail
      sent := c.sent ++ [bs]
      marks := c.marks ++ [c.reader] }
  | (.error e, writer) => .error e { c with writer, sinks := c.sinks.tail }

/-- Read from the peer. -/
def decode (d : Decoder σ α) : Dialogue σ α := fun c =>
  match d c.reader with
  | .ok a reader => .ok a { c with reader }
  | .error e reader => .error e { c with reader }

variable [Source σ]

/-- Read a reply onto a tray, and tell what has become of the tray. -/
def reply (p : Policy α) (limit : Nat) (tray : Tray) (c : Connection σ) :
    Except Error α × Tray × Connection σ :=
  match p.run limit (c.reader, tray) with
  | .ok a (reader, tray) => (.ok a, tray, { c with reader })
  | .error e (reader, tray) => (.error e, tray, { c with reader })

/-- Read a reply that is gathered on a tray of its own. -/
def answer (p : Policy α) (limit : Nat) : Dialogue σ α := fun c =>
  match c.reply p limit {} with
  | (.ok a, _, c) => .ok a c
  | (.error e, _, c) => .error e c

/-- What the reply to a hello tells. -/
def readHello (limit : Nat) : Decoder σ ServerInfo := do
  let code ← Decoder.varint
  match ServerPacket.ofCode? code with
  | some .hello => ServerInfo.read
  | some .exception => do
    let e ← ServerException.read limit
    throw (.server e)
  | _ => throw (.unexpectedPacket "hello" code)

/-- Exchange hellos, and remember who the server is. -/
def greet (config : Config) : Dialogue σ ServerInfo := do
  write (Request.hello config.database config.user config.password)
  flush
  let server ← decode (readHello config.exceptionDepth.toNat)
  modify fun c => { c with server := some server }
  return server

end Connection

end ColumnWire

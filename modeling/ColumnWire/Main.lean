import ColumnWire.CommandLine.Run
import ColumnWire.Config.Endpoint
import ColumnWire.Stream.Feed
import Std.Async.DNS
import Std.Async.System
import Std.Async.TCP

/-!
# The program

A run is a function of what the server says, so it is carried out again and again: each
time with all that has been heard so far, until it wants to hear nothing more. In
between, what it has to say is said, and the next words of the server are heard.
-/
namespace ColumnWire.Program

open Std

/-! ## Reports of the system -/

/-- The number of a failure, with or without a sign, and its text. -/
def wordAndText : IO.Error → UInt32 × String
  | .alreadyExists _ n s | .noFileOrDirectory _ n s | .invalidArgument _ n s | .permissionDenied _ n s
  | .resourceExhausted _ n s | .inappropriateType _ n s | .noSuchThing _ n s | .interrupted _ n s
  | .otherError n s | .resourceBusy n s | .resourceVanished n s | .unsupportedOperation n s
  | .hardwareFault n s | .unsatisfiedConstraints n s | .illegalOperation n s | .protocolError n s
  | .timeExpired n s => (n, s)
  | .unexpectedEof => (0, "end of file")
  | .userError s => (0, s)

/-- The usual text of a failure with a number. -/
def usualText : Nat → Option String
  | 1 => some "Operation not permitted"
  | 13 => some "Permission denied"
  | 17 => some "File exists"
  | 20 => some "Not a directory"
  | 21 => some "Is a directory"
  | 30 => some "Read-only file system"
  | 32 => some "Broken pipe"
  | 101 => some "Network is unreachable"
  | 104 => some "Connection reset by peer"
  | 110 => some "Connection timed out"
  | 111 => some "Connection refused"
  | 113 => some "No route to host"
  | _ => none

/-- The number of a failure and its text. -/
def numberAndText (e : IO.Error) : Nat × String :=
  let (word, details) := wordAndText e
  (word.toInt32.toInt.natAbs, details)

def text (e : IO.Error) : String :=
  let (number, details) := numberAndText e
  if number = 0 then details else (usualText number).getD details ++ s!" (os error {number})"

def fileFault (e : IO.Error) : FileFault :=
  match (numberAndText e).1 with
  | 2 => .missing
  | 36 => .nameTooLong
  | _ => .reported (text e)

def ioFault (e : IO.Error) : IoFault := .reported (text e)

def attempt {α ε : Type} (fault : IO.Error → ε) (act : IO α) : IO (Except ε α) := do
  match ← act.toBaseIO with
  | .ok a => return .ok a
  | .error e => return .error (fault e)

/-! ## Surroundings -/

def content (path : String) : IO (Except FileFault Bytes) :=
  attempt fileFault do return (← IO.FS.readBinFile path).toList

def entries (path : String) : IO (Option (Except FileFault (List DirectoryEntry))) := do
  let place := (← IO.currentDir) / path
  if ← place.isDir then
    some <$> attempt fileFault do
      (← place.readDir).toList.mapM fun entry => do
        let kind ← match (← entry.path.symlinkMetadata).type with
          | .file => pure (FileKind.file (← content entry.path.toString))
          | _ => pure FileKind.directory
        return ⟨entry.fileName, kind⟩
  else return none

/-- What a command line can find. The network is empty until somebody is called. -/
def surroundings (i : Invocation) : IO (Surroundings Feed) := do
  let file ← match i.address, i.configFile with
    | none, some path => content path
    | _, _ => pure (.error .missing)
  let directory ← match i.command with
    | .migrate options _ => entries options.directory
    | _ => pure none
  let machine ← attempt ioFault Async.System.getHostName
  return { file := fun _ => file, directory := fun _ => directory, machine := machine.toOption.getD ""
           second := (← Time.Timestamp.now).toSecondsSinceUnixEpoch.val
           network := fun _ => .silent }

/-! ## The server -/

/-- Do something, and stop waiting at the limit. -/
partial def within {α : Type} (limit : Option Duration) (act : IO α) : IO (Option α) := do
  let task ← IO.asTask act .dedicated
  let start ← IO.monoNanosNow
  let rec wait : IO (Option α) := do
    if ← IO.hasFinished task then return some (← IO.ofExcept task.get)
    match limit with
    | some limit =>
      if limit.nanos < (← IO.monoNanosNow) - start then return none
    | none => pure ()
    IO.sleep 1
    wait
  wait

/-- A call to the server. -/
structure Wire where
  socket : Option Async.TCP.Socket.Client := none
  /-- What has been heard. -/
  feed : Feed := {}
  /-- How the requests were received. -/
  sinks : List Sink := []
  /-- Why there is no connection. -/
  failed : Option (Dial Feed) := none

/-- What a run sees of a call. -/
def Wire.dial (w : Wire) : Dial Feed := w.failed.getD (.connected ⟨w.feed, w.sinks⟩)

/-- The numbers of a host. -/
def addresses (host : String) : IO (Array Net.IPAddr) := do
  match Net.IPv4Addr.ofString host, Net.IPv6Addr.ofString host with
  | some a, _ => return #[.v4 a]
  | none, some a => return #[.v6 a]
  | none, none =>
    try (Async.DNS.getAddrInfo host "").block
    catch e => throw (.userError ("failed to lookup address information: " ++ (numberAndText e).2))

/-- Call an endpoint at the first of its numbers that answers. -/
def connect (e : Endpoint) : IO Async.TCP.Socket.Client := do
  let mut failure : IO.Error := .userError "could not resolve to any address"
  for address in ← addresses e.bareHost do
    let socket ← Async.TCP.Socket.Client.mk
    let place : Net.SocketAddress := match address with
      | .v4 a => .v4 ⟨a, e.port⟩
      | .v6 a => .v6 ⟨a, e.port⟩
    try
      (socket.connect place).block
      socket.noDelay
      return socket
    catch e => failure := e
  throw failure

/-- Call the server. -/
def call (config : Config) : IO Wire := do
  match Endpoint.ofAddress config.address with
  | .error fault => return { failed := some (.failed fault) }
  | .ok endpoint =>
    match ← attempt ioFault (within config.dialLimit (connect endpoint)) with
    | .ok (some socket) => return { socket := some socket }
    | .ok none => return { failed := some .silent }
    | .error fault => return { failed := some (.failed fault) }

/-- Say what has not been said yet. -/
def say (limit : Option Duration) (requests : List Bytes) (w : Wire) : IO Wire := do
  let mut w := w
  for request in requests.drop w.sinks.length do
    match w.socket with
    | none => return w
    | some socket =>
      let sent ← attempt ioFault (within limit (socket.send ⟨request.toArray⟩).block)
      w := { w with sinks := w.sinks ++ [match sent with
        | .ok (some _) => .ready
        | .ok none => .silent
        | .error fault => .broken fault] }
  return w

/-- Hear the next words. -/
def hear (limit : Option Duration) (w : Wire) : IO Wire := do
  match w.socket with
  | none => return { w with feed := { w.feed with ending := some .closed } }
  | some socket =>
    let heard ← attempt ioFault (within limit (socket.recv? 65536).block)
    return { w with feed := match heard with
      | .ok (some (some bs)) => { w.feed with bytes := w.feed.bytes ++ bs.toList }
      | .ok (some none) => { w.feed with ending := some .closed }
      | .ok none => { w.feed with ending := some .silent }
      | .error fault => { w.feed with ending := some (.broken fault) } }

/-- What a run wants next. -/
inductive Wish where
  /-- To say what has not been said on a connection, and perhaps to hear more. -/
  | talk (conn : Connection Feed)
  | call
  | nothing

/-- What a run that knows of some calls wants next. -/
def wish (c : Client Feed) (wires : Array Wire) : Wish :=
  let conns := (c.pool.departed ++ c.pool.idle).mergeSort fun a b => a.id ≤ b.id
  let said := fun (conn : Connection Feed) => ((wires[conn.id - 1]?).map (·.sinks.length)).getD 0
  match conns.find? fun conn => conn.reader.source.starved || said conn < conn.sent.length with
  | some conn => .talk conn
  | none => if wires.size + 1 < c.pool.nextId then .call else .nothing

/-- Carry a command line out, with the calls made so far. -/
partial def converse (s : Surroundings Feed) (i : Invocation) (wires : Array Wire) : IO (Report Feed) := do
  let network : Network Feed := fun id => ((wires[id - 1]?).map Wire.dial).getD .silent
  match i.run { s with network } with
  | .create directory files =>
    Outcome.write directory files (fun path => attempt fileFault (IO.FS.createDirAll path))
      fun file => attempt fileFault (IO.FS.writeFile file.path file.content)
  | .report r =>
    match r.client with
    | none => return r
    | some c =>
      match wish c wires with
      | .nothing => return r
      | .call => converse s i (wires.push (← call c.config))
      | .talk conn =>
        let wire ← say c.config.writeLimit conn.sent (wires[conn.id - 1]?.getD {})
        let wire ← if conn.reader.source.starved ∧ wire.sinks.all (· = .ready) then
            hear c.config.readLimit wire
          else pure wire
        converse s i (wires.setIfInBounds (conn.id - 1) wire)

/-- How the program is used. -/
def usage : String :=
  "Usage: chwire [--dsn <DSN>] [--config <CONFIG>] <COMMAND>\n\nCommands:\n" ++
    "  ping\n  exec <SQL>\n  query [--json] <SQL>\n" ++
    "  migrate [--dir <DIR>] [--nop] [--apply-on-success] <ACTION>\n\nActions:\n" ++
    "  init, reset, up, down, status, lock, unlock, create-sql <NAME>, create-code <NAME>\n"

end ColumnWire.Program

open ColumnWire in
def main (words : List String) : IO UInt32 := do
  match CommandLine.parse (← IO.getEnv "CHWIRE_DSN") words with
  | .error .helpWanted =>
    IO.print Program.usage
    return 0
  | .error .unclear =>
    IO.eprint Program.usage
    return 2
  | .ok i =>
    let report ← Program.converse (← Program.surroundings i) i #[]
    for line in report.lines do
      IO.println line
    match report.failure with
    | none => return 0
    | some failure =>
      IO.eprint failure.report
      return 1

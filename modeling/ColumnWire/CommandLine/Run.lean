import ColumnWire.Block.Lines
import ColumnWire.Client.Database
import ColumnWire.CommandLine
import ColumnWire.CommandLine.Failure
import ColumnWire.Config.Address
import ColumnWire.Config.File
import ColumnWire.Migration.Create
import ColumnWire.Migration.Migrator

/-!
# Carrying out a command line

A run sees its surroundings as they are when it starts, the server's answers among them,
and ends with lines to print and perhaps a failure. Only new migration files are written
on the way, by whoever runs it.
-/
namespace ColumnWire

/-- What a run finds. -/
structure Surroundings (σ : Type) where
  /-- The content of a file. -/
  file : String → Except FileFault Bytes
  /-- The entries of a directory, if there is such a directory. -/
  directory : String → Option (Except FileFault (List DirectoryEntry))
  /-- The name of the machine. -/
  machine : String
  /-- The second in which the run starts. -/
  second : Int
  network : Network σ

/-- How a run ends. -/
structure Report (σ : Type) where
  /-- The lines that were printed before. -/
  lines : List String := []
  failure : Option Failure := none
  /-- The client, if the run had one. -/
  client : Option (Client σ) := none

/-- What comes of a command line: a report, or files to be written to a directory. -/
inductive Outcome (σ : Type) where
  | report (r : Report σ)
  | create (directory : String) (files : Except MigrateError (List NewFile))

namespace Invocation

variable {σ α : Type}

/-- The configuration: from an address, from a file, or the usual one. -/
def config (w : Surroundings σ) (i : Invocation) : Except Error Config :=
  match i.address, i.configFile with
  | some address, _ => Config.ofAddress address
  | none, some path => Config.ofFile path (w.file path)
  | none, none => .ok {}

/-- The end of a run that has printed some lines. A client that is done is closed. -/
def finished (lines : List String) (c : Client σ) : Outcome σ :=
  .report { lines, client := some c.close }

/-- The end of a run that fails after some lines. -/
def failed (lines : List String) (failure : Failure) (c : Client σ) : Outcome σ :=
  .report { lines, failure := some failure, client := some c }

/-- The lines about a migration and its group. -/
def statusLine (m : Migration) : String :=
  match m.appliedAt with
  | some second =>
    if m.isApplied then
      s!"{m.name}\tgroup #{m.group.toInt}\t" ++ Calendar.momentText "T" second ++ "+00:00"
    else m.name ++ "\tpending"
  | none => m.name ++ "\tpending"

/-- The line about a group that was dealt with. -/
def groupLine (g : MigrationGroup) (none some : String) : String := if g.isZero then none else some ++ g.text

/-- What is known about the migrations of a directory. -/
def registry (w : Surroundings σ) (directory : String) : Except Failure Registry :=
  let start : Registry := { directory := some directory }
  match w.directory directory with
  | none => .ok start
  | some entries =>
    match start.discover directory entries with
    | .ok r => .ok r
    | .error fault =>
      .error ⟨"failed to read migrations from " ++ directory, [fault.message]⟩

variable [Source σ]

/-- The end of a session, with the lines that its result gives. -/
def session (s : Session σ α) (lines : α → List String) (c : Client σ) : Outcome σ :=
  match s c with
  | .ok a c => finished (lines a) c
  | .error e c => failed [] (.ofError e) c

/-- The end of a plan, with the lines that its result gives. -/
def plan (second : Int) (p : Migrator.Attempt α) (lines : α → List String) (c : Client σ) : Outcome σ :=
  match p.run.run (Client.database second) c with
  | (.ok a, c) => finished (lines a) c
  | (.error e, c) => failed [] (.ofMigrateError e) c

/-- Ask whether the server is there, and who it is. -/
def ping : Session σ ServerInfo := do
  let server ← Client.serverInfo
  Client.ping
  return server

/-- Run a query, and print its rows up to a failure. -/
def query (sql : String) (json : Bool) (c : Client σ) : Outcome σ :=
  match Client.query sql c with
  | .error e c => failed [] (.ofError e) c
  | .ok rows c =>
    let (blocks, rows, c) := RowStream.pullAll [] (rows, c)
    let lines := blocks.flatMap (·.lines json)
    match rows.failure with
    | some e => failed lines (.ofError e) c
    | none => finished lines c

/-- Do something with the migrations of a directory. -/
def migrate (w : Surroundings σ) (options : MigrateOptions) (action : MigrateAction) (c : Client σ) :
    Outcome σ :=
  match registry w options.directory with
  | .error failure => failed [] failure c
  | .ok registry =>
    let m : Migrator := { registry, applyOnSuccess := options.applyOnSuccess }
    match action with
    | .init => plan w.second m.init (fun _ => []) c
    | .reset => plan w.second m.reset (fun _ => []) c
    | .lock => plan w.second m.lock (fun _ => []) c
    | .unlock => plan w.second m.unlock (fun _ => []) c
    | .up =>
      plan w.second (m.migrate options.nop)
        (fun g => [groupLine g "there are no new migrations to run" "migrated to "]) c
    | .down =>
      plan w.second (m.rollback options.nop)
        (fun g => [groupLine g "there are no groups to roll back" "rolled back "]) c
    | .status =>
      plan w.second m.status
        (fun (ms, _) => ms.map statusLine ++ ["last group: " ++ (Migrations.lastGroup ms).text]) c
    | .createSql name => .create options.directory (NewFile.sql registry name w.second)
    | .createCode name => .create options.directory (NewFile.code registry name w.second)

/-- Carry out a command. -/
def carryOut (w : Surroundings σ) (command : Command) (c : Client σ) : Outcome σ :=
  match command with
  | .ping =>
    session ping (fun s => [s!"pong from {s.name} {s.version} (revision {s.revision})"]) c
  | .exec sql => session (Client.exec sql) (fun rows => [toString rows]) c
  | .query sql json => query sql json c
  | .migrate options action => migrate w options action c

/-- Carry out a command line. -/
def run (w : Surroundings σ) (i : Invocation) : Outcome σ :=
  match i.config w with
  | .error e => .report { failure := some (.ofError e) }
  | .ok config =>
    match Client.ofConfig config w.machine w.network with
    | .error e => .report { failure := some (.ofError e) }
    | .ok c => carryOut w i.command c

end Invocation

/-- Write new files to a directory, which is made if it is not there. -/
def Outcome.write {m : Type → Type} [Monad m] {σ : Type} (directory : String)
    (files : Except MigrateError (List NewFile)) (makeDirectory : String → m (Except FileFault Unit))
    (write : NewFile → m (Except FileFault Unit)) : m (Report σ) := do
  match ← makeDirectory directory with
  | .error fault => return { failure := some ⟨fault.message, []⟩ }
  | .ok () =>
    match files with
    | .error e => return { failure := some (.ofMigrateError e) }
    | .ok files =>
      match ← (NewFile.writeAll write files).run with
      | .error e => return { failure := some (.ofMigrateError e) }
      | .ok files => return { lines := files.map fun f => "created " ++ f.path }

end ColumnWire

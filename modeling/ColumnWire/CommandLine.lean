/-!
# The command line

A command line names a command and its operands. Options stand anywhere among the
operands of their command; those that say where the server is belong to every command,
and the innermost one counts. `CommandLine.parse` accepts what can be carried out.
-/
namespace ColumnWire

/-- What is done with migrations. -/
inductive MigrateAction where
  | init
  | reset
  | up
  | down
  | status
  | lock
  | unlock
  | createSql (name : String)
  | createCode (name : String)
deriving Repr, DecidableEq, Inhabited

/-- How it is done. -/
structure MigrateOptions where
  directory : String := "./migrations"
  nop : Bool := false
  applyOnSuccess : Bool := false
deriving Repr, DecidableEq, Inhabited

/-- What the program is asked to do. -/
inductive Command where
  | ping
  | exec (sql : String)
  | query (sql : String) (json : Bool)
  | migrate (options : MigrateOptions) (action : MigrateAction)
deriving Repr, DecidableEq, Inhabited

/-- A command, and where the server is. -/
structure Invocation where
  address : Option String := none
  configFile : Option String := none
  command : Command
deriving Repr, DecidableEq, Inhabited

/-- Why a command line is not carried out. -/
inductive Misuse where
  /-- It cannot be understood. -/
  | unclear
  /-- It asks how the program is used. -/
  | helpWanted
deriving Repr, DecidableEq, Inhabited

namespace CommandLine

/-! ## Words -/

/-- What a word of the command line is. -/
inductive Word where
  | operand (text : String)
  /-- All further words are operands. -/
  | rest
  /-- An option with two dashes, perhaps with its value. -/
  | long (name : String) (value : Option String)
  /-- Options with one dash. -/
  | short (letters : List Char)
deriving Repr, DecidableEq

/-- The name of an option and the value behind the first equals sign. -/
def splitValue (cs : List Char) : Word :=
  let name := String.ofList (cs.takeWhile (· ≠ '='))
  match cs.dropWhile (· ≠ '=') with
  | [] => .long name none
  | _ :: value => .long name (some (String.ofList value))

def word (text : String) : Word :=
  match text.toList with
  | ['-'] => .operand text
  | ['-', '-'] => .rest
  | '-' :: '-' :: cs => splitValue cs
  | '-' :: cs => .short cs
  | _ => .operand text

/-! ## Levels -/

/-- What may stand at one level of a command line. -/
structure Level where
  /-- Options with a value; every level has those that say where the server is. -/
  options : List String := []
  switches : List String := []
  /-- How many operands there are. -/
  operands : Nat := 0
  /-- The commands, one of which has to be there. -/
  commands : List String := []

/-- What stands at one level. -/
structure Found where
  options : List (String × String) := []
  switches : List String := []
  operands : List String := []
  /-- The command, and the words behind it. -/
  command : Option (String × List String) := none
deriving Repr, DecidableEq

/-- The value of an option. -/
def Found.option? (f : Found) (name : String) : Option String :=
  (f.options.find? (·.1 = name)).map (·.2)

/-- Options whose values are paths, and not empty. -/
def pathOptions : List String := ["config", "dir"]

/-- Add an option; each may be there once. -/
def Found.addOption (level : Level) (f : Found) (name value : String) : Except Misuse Found :=
  if name ∉ "dsn" :: "config" :: level.options then .error .unclear
  else if (f.option? name).isSome then .error .unclear
  else if value = "" ∧ name ∈ pathOptions then .error .unclear
  else .ok { f with options := f.options ++ [(name, value)] }

/-- Add a switch; each may be there once. -/
def Found.addSwitch (level : Level) (f : Found) (name : String) : Except Misuse Found :=
  if name = "help" then .error .helpWanted
  else if name ∈ level.switches ∧ name ∉ f.switches then .ok { f with switches := f.switches ++ [name] }
  else .error .unclear

/-- Add an operand. -/
def Found.addOperand (level : Level) (f : Found) (text : String) : Except Misuse Found :=
  if f.operands.length < level.operands then .ok { f with operands := f.operands ++ [text] }
  else .error .unclear

/-- Find what stands at one level, behind what has been found. -/
def find (level : Level) (f : Found) : List String → Except Misuse Found
  | [] => .ok f
  | [text] =>
    match word text with
    | .operand text =>
      if level.commands = [] then f.addOperand level text
      else if text = "help" then .error .helpWanted
      else if text ∈ level.commands then .ok { f with command := some (text, []) }
      else .error .unclear
    | .rest => .ok f
    | .long name none => f.addSwitch level name
    | .long name (some value) => f.addOption level name value
    | .short letters => .error (if letters.head? = some 'h' then .helpWanted else .unclear)
  | text :: next :: more =>
    match word text with
    | .operand text =>
      if level.commands = [] then do find level (← f.addOperand level text) (next :: more)
      else if text = "help" then .error .helpWanted
      else if text ∈ level.commands then .ok { f with command := some (text, next :: more) }
      else .error .unclear
    | .rest => (next :: more).foldlM (Found.addOperand level) f
    | .long name none =>
      if name ∈ "dsn" :: "config" :: level.options then
        match word next with
        | .operand value => do find level (← f.addOption level name value) more
        | _ => .error .unclear
      else do find level (← f.addSwitch level name) (next :: more)
    | .long name (some value) => do find level (← f.addOption level name value) (next :: more)
    | .short letters => .error (if letters.head? = some 'h' then .helpWanted else .unclear)

/-- What stands at a level without commands: exactly its operands. -/
def findOperands (level : Level) (words : List String) : Except Misuse Found := do
  let f ← find level {} words
  if f.operands.length = level.operands then return f else throw .unclear

/-- What stands at a level with commands, and the one that is there. -/
def findCommand (level : Level) (words : List String) : Except Misuse (Found × String × List String) := do
  let f ← find level {} words
  match f.command with
  | some command => return (f, command)
  | none => throw .unclear

/-! ## Commands -/

/-- The level below `migrate`. -/
def migrateLevel : Level where
  options := ["dir"]
  switches := ["nop", "apply-on-success"]
  commands := ["init", "reset", "up", "down", "status", "lock", "unlock", "create-sql", "create-code"]

/-- The uppermost level. -/
def topLevel : Level where
  commands := ["ping", "exec", "query", "migrate"]

/-- What is done with migrations, and where the server is. -/
def parseAction (name : String) (words : List String) : Except Misuse (MigrateAction × Found) := do
  let level : Level := { operands := if name = "create-sql" ∨ name = "create-code" then 1 else 0 }
  let f ← findOperands level words
  match name, f.operands with
  | "init", _ => return (.init, f)
  | "reset", _ => return (.reset, f)
  | "up", _ => return (.up, f)
  | "down", _ => return (.down, f)
  | "status", _ => return (.status, f)
  | "lock", _ => return (.lock, f)
  | "unlock", _ => return (.unlock, f)
  | "create-sql", [file] => return (.createSql file, f)
  | "create-code", [file] => return (.createCode file, f)
  | _, _ => throw .unclear

/-- A command, and what its levels say about the server, the innermost one first. -/
def parseCommand (name : String) (words : List String) : Except Misuse (Command × List Found) := do
  match name with
  | "ping" =>
    let f ← findOperands {} words
    return (.ping, [f])
  | "exec" =>
    let f ← findOperands { operands := 1 } words
    return (.exec (f.operands.headD ""), [f])
  | "query" =>
    let f ← findOperands { switches := ["json"], operands := 1 } words
    return (.query (f.operands.headD "") (f.switches.contains "json"), [f])
  | "migrate" =>
    let (f, name, words) ← findCommand migrateLevel words
    let (action, inner) ← parseAction name words
    let options : MigrateOptions := {
      directory := (f.option? "dir").getD "./migrations"
      nop := f.switches.contains "nop"
      applyOnSuccess := f.switches.contains "apply-on-success" }
    return (.migrate options action, [inner, f])
  | _ => throw .unclear

/-- The invocation that a command line stands for. Without an address on it, the one of the environment
counts. -/
def parse (fallback : Option String) (words : List String) : Except Misuse Invocation := do
  let (f, name, words) ← findCommand topLevel words
  let (command, inner) ← parseCommand name words
  let option? := fun (name : String) => (inner ++ [f]).findSome? (·.option? name)
  return { address := option? "dsn" <|> fallback, configFile := option? "config", command }

end CommandLine

end ColumnWire

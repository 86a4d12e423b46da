import ColumnWire.Error
import ColumnWire.Settings
import ColumnWire.Text.Digits

/-!
# Configuration

Where the server is, who connects, and how long to wait. Spans of time are given in
milliseconds, and zero means no limit. A configuration may hold anything; `validate`
says whether it can be used.
-/
namespace ColumnWire

/-- All that a client has to know before it connects. -/
structure Config where
  /-- Host and port of the server. -/
  address : String := "localhost:9000"
  database : String := "default"
  user : String := "default"
  password : String := ""
  /-- Whether blocks are compressed in both directions. -/
  compression : Bool := true
  dialMillis : UInt64 := 5000
  readMillis : UInt64 := 30000
  writeMillis : UInt64 := 30000
  /-- Most connections at a time. -/
  poolSize : UInt64 := 4
  /-- How long to wait for a free connection. -/
  poolMillis : UInt64 := 30000
  /-- How long an idle connection may be used again. -/
  idleMillis : UInt64 := 300000
  /-- Most records of an exception. -/
  exceptionDepth : UInt64 := 64
  /-- The host name to report, if not that of the machine. -/
  hostname : Option String := none
  settings : Settings := {}
deriving Repr, DecidableEq, Inhabited

namespace Config

/-- Port of a server that names none. -/
def defaultPort : Nat := 9000

/-- What is wrong with a configuration, if something is. -/
def fault? (c : Config) : Option ConfigFault :=
  if Blank.trimText c.address = "" then some .emptyAddress
  else if c.poolSize = 0 then some .emptyPool
  else if c.exceptionDepth = 0 then some .noExceptionDepth
  else none

/-- Accept a configuration that can be used. -/
def validate (c : Config) : Except Error Unit :=
  match c.fault? with
  | some fault => .error (.config fault)
  | none => .ok ()

/-- A configuration, if it can be used. -/
def validated (c : Config) : Except Error Config := do
  c.validate
  return c

/-! ## Limits -/

def dialLimit (c : Config) : Option Duration := Duration.limitOfMillis c.dialMillis.toNat
def readLimit (c : Config) : Option Duration := Duration.limitOfMillis c.readMillis.toNat
def writeLimit (c : Config) : Option Duration := Duration.limitOfMillis c.writeMillis.toNat
def poolLimit (c : Config) : Option Duration := Duration.limitOfMillis c.poolMillis.toNat
def idleLimit (c : Config) : Option Duration := Duration.limitOfMillis c.idleMillis.toNat

end Config

end ColumnWire

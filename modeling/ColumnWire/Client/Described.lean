import ColumnWire.RowStream
import ColumnWire.Text.Described

/-!
# Clients and their parts in words

What can be told about a client without its password, about a connection and about a
stream of rows, with the failure that it met.
-/
namespace ColumnWire

open Described

/-- The records of an exception, each inside the one it caused. -/
def ServerException.describeChain : List ExceptionRecord → Option String
  | [] => none
  | r :: causes =>
    some (record "Exception" [("code", toString r.code.toInt), ("name", Quoted.encode r.name),
      ("message", Quoted.encode r.message), ("stack_trace", Quoted.encode r.stackTrace),
      ("nested", option (describeChain causes))])

/-- All records of an exception. -/
def ServerException.describe (e : ServerException) : String := (describeChain e.chain).getD ""

/-- The kind of a fault of the transport, and its text. -/
def IoFault.describe : IoFault → String
  | .closed =>
    record "Custom" [("kind", "UnexpectedEof"), ("error", Quoted.encode IoFault.closed.message)]
  | .tookNothing =>
    record "Error" [("kind", "WriteZero"), ("message", Quoted.encode IoFault.tookNothing.message)]
  | .reported text => record "Custom" [("kind", "Other"), ("error", Quoted.encode text)]

/-- The kind of a failure, and its cause. -/
def Error.describe : Error → String
  | .io fault => wrapped "Io" fault.describe
  | .connect address fault =>
    record "Connect" [("addr", Quoted.encode address), ("source", fault.describe)]
  | .timeout limit => wrapped "Timeout" limit.text
  | .unexpectedPacket context packet =>
    record "UnexpectedPacket" [("context", Quoted.encode context), ("packet", toString packet)]
  | .emptyColumnName => "EmptyColumnName"
  | .emptyColumnType column => wrapped "EmptyColumnType" (Quoted.encode column)
  | .unsupportedColumnType type => wrapped "UnsupportedColumnType" (Quoted.encode type)
  | .protocol fault => wrapped "Protocol" (Quoted.encode fault.message)
  | .compression fault => wrapped "Compression" (Quoted.encode fault.message)
  | .exceptionTooDeep limit => wrapped "ExceptionTooDeep" (toString limit)
  | .server exception => wrapped "Server" exception.describe
  | .config fault => wrapped "Config" (Quoted.encode fault.message)
  | .invalidBlock fault => wrapped "InvalidBlock" (Quoted.encode fault.message)
  | .poolTimeout => "PoolTimeout"
  | .poolClosed => "PoolClosed"

/-- All that a server has said about itself. -/
def ServerInfo.describe (s : ServerInfo) : String :=
  record "ServerInfo" [("name", Quoted.encode s.name), ("version_major", toString s.major),
    ("version_minor", toString s.minor), ("revision", toString s.revision),
    ("timezone", option (s.timezone.map Quoted.encode)),
    ("display_name", option (s.displayName.map Quoted.encode)), ("version_patch", toString s.patch)]

/-- The numbers of a pool. -/
def PoolStats.describe (s : PoolStats) : String :=
  record "PoolStats" [("size", toString s.size), ("idle", toString s.idle), ("in_use", toString s.inUse)]

variable {σ : Type}

/-- The number of a connection and its server. -/
def Connection.describe (c : Connection σ) : String :=
  record "Conn" [("id", toString c.id), ("server", option (c.server.map ServerInfo.describe))]

/-- The server and the database of a client, and the state of its pool. -/
def Client.describe (c : Client σ) : String :=
  record "Db" [("addr", Quoted.encode c.config.address), ("database", Quoted.encode c.config.database),
    ("pool", c.pool.stats.describe)]

/-- Whether a stream is open, and its failure. -/
def RowStream.describe (rows : RowStream σ) : String :=
  record "BlockIter" [("open", toString rows.connection.isSome),
    ("err", option (rows.failure.map Error.describe))]

end ColumnWire

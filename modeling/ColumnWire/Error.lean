import ColumnWire.Duration
import ColumnWire.Exception
import ColumnWire.Url.Fault

/-!
# What can go wrong

Each kind of failure carries its cause as data; the wording is in one function,
`message`. Only three kinds leave a connection usable (`spoilsConnection`).
-/
namespace ColumnWire

/-- A failure of the transport. -/
inductive IoFault where
  /-- The peer ended its stream. -/
  | closed
  /-- The transport took none of the bytes offered. -/
  | tookNothing
  /-- Whatever else the transport reports. -/
  | reported (text : String)
deriving Repr, DecidableEq, Inhabited

def IoFault.message : IoFault → String
  | .closed => "connection closed by server"
  | .tookNothing => "failed to write whole buffer"
  | .reported text => text

/-- Bytes that break the rules of the wire format. -/
inductive WireFault where
  | varintOverflow
  | readTooLarge (size : Nat)
  | textTooLarge (size : Nat)
  | columnTooLarge (rows : Nat)
  | tooManyColumns (count limit : Nat)
  | tooManyRows (count limit : Nat)
  | misplacedField (found expected : UInt64)
  | stated (text : String)
deriving Repr, DecidableEq, Inhabited

def WireFault.message : WireFault → String
  | .varintOverflow => "varint overflows a 64-bit integer"
  | .readTooLarge size => s!"read of {size} bytes is too large"
  | .textTooLarge size => s!"string length {size} is too large"
  | .columnTooLarge rows => s!"{rows} rows overflow the column size"
  | .tooManyColumns count limit => s!"block column count {count} exceeds the limit of {limit}"
  | .tooManyRows count limit => s!"block row count {count} exceeds the limit of {limit}"
  | .misplacedField found expected =>
    s!"malformed block info: field {found} where {expected} was expected"
  | .stated text => text

/-- Bytes that are no compression frame. -/
inductive FrameFault where
  | smallerThanHeader (size : Nat)
  | tooLarge (compressed decompressed : Nat)
  | wrongLength (found announced : Nat)
  | checksumMismatch
  | malformedBlock
  | unknownMethod (method : UInt8)
  | wrongContentLength (found announced : Nat)
  | stated (text : String)
deriving Repr, DecidableEq, Inhabited

/-- A byte as two hexadecimal digits. -/
def FrameFault.hexByte (b : UInt8) : String :=
  String.ofList [Nat.digitChar (b.toNat / 16), Nat.digitChar (b.toNat % 16)]

def FrameFault.message : FrameFault → String
  | .smallerThanHeader size => s!"compressed size {size} is smaller than the frame header"
  | .tooLarge compressed decompressed =>
    s!"frame too large: {compressed} compressed, {decompressed} decompressed"
  | .wrongLength found announced => s!"frame has {found} bytes, header says {announced}"
  | .checksumMismatch => "checksum mismatch"
  | .malformedBlock => "LZ4 decompression failed"
  | .unknownMethod method => "unknown compression method 0x" ++ hexByte method
  | .wrongContentLength found announced => s!"decompressed {found} bytes, header says {announced}"
  | .stated text => text

/-- A column that cannot be part of a block. -/
inductive BlockFault where
  | emptyName
  | emptyType (column : String)
  | wrongType (column type : String)
  | tooWide (column : String) (size width : Nat)
  | wrongRows (column : String) (rows expected : Nat)
  | stated (text : String)
deriving Repr, DecidableEq, Inhabited

def BlockFault.message : BlockFault → String
  | .emptyName => "column has empty name"
  | .emptyType column => s!"column={column} has empty type"
  | .wrongType column type => s!"column={column} data does not match type {type}"
  | .tooWide column size width =>
    s!"column={column} value of {size} bytes does not fit FixedString({width})"
  | .wrongRows column rows expected => s!"column={column} has {rows} rows, block has {expected}"
  | .stated text => text

/-- A configuration that cannot be used. -/
inductive ConfigFault where
  | malformedAddress (fault : UrlFault)
  | unsupportedScheme (scheme : String)
  | noHost
  | badValue (key value : String)
  | malformedFile
  | unreadableFile (path reason : String)
  | emptyAddress
  | emptyPool
  | noExceptionDepth
  | stated (text : String)
deriving Repr, DecidableEq, Inhabited

def ConfigFault.message : ConfigFault → String
  | .malformedAddress fault => "invalid DSN: " ++ fault.message
  | .unsupportedScheme scheme => "unsupported DSN scheme: " ++ scheme
  | .noHost => "DSN has no host"
  | .badValue key value => s!"invalid value for {key}: {value}"
  | .malformedFile => "invalid config"
  | .unreadableFile path reason => s!"failed to read {path}: {reason}"
  | .emptyAddress => "address must not be empty"
  | .emptyPool => "pool_size must be at least 1"
  | .noExceptionDepth => "max_exception_depth must be at least 1"
  | .stated text => text

/-- A failure of the client. -/
inductive Error where
  | io (fault : IoFault)
  | connect (address : String) (fault : IoFault)
  | timeout (limit : Duration)
  | unexpectedPacket (context : String) (packet : UInt64)
  | emptyColumnName
  | emptyColumnType (column : String)
  | unsupportedColumnType (type : String)
  | protocol (fault : WireFault)
  | compression (fault : FrameFault)
  | exceptionTooDeep (limit : Nat)
  | server (exception : ServerException)
  | config (fault : ConfigFault)
  | invalidBlock (fault : BlockFault)
  | poolTimeout
  | poolClosed
deriving Repr, DecidableEq, Inhabited

namespace Error

/-- The failure in words. -/
def message : Error → String
  | .io fault => "IO error: " ++ fault.message
  | .connect address fault => s!"Failed to connect to {address}: " ++ fault.message
  | .timeout limit => "Timed out after " ++ limit.text
  | .unexpectedPacket context packet => s!"{context}: unexpected packet: {packet}"
  | .emptyColumnName => "Column has empty name"
  | .emptyColumnType column => s!"Column={column} has empty type"
  | .unsupportedColumnType type => "Unsupported column type: " ++ type
  | .protocol fault => "Protocol error: " ++ fault.message
  | .compression fault => "Compression error: " ++ fault.message
  | .exceptionTooDeep limit => s!"Exception chain is deeper than {limit} levels"
  | .server exception => exception.text
  | .config fault => "Configuration error: " ++ fault.message
  | .invalidBlock fault => "Invalid block: " ++ fault.message
  | .poolTimeout => "Timed out waiting for a pooled connection"
  | .poolClosed => "Connection pool is closed"

/-- Whether the connection that met the failure has to be closed, because nobody can tell
any more where its next packet starts. -/
def spoilsConnection : Error → Bool
  | .server _ | .config _ | .invalidBlock _ => false
  | _ => true

end Error

end ColumnWire

import ColumnWire.Bytes.Encode

/-!
# Packets and the numbers of the protocol

Every message starts with the number of its packet. Servers may know more packets than
are listed here; those are refused wherever they occur.
-/
namespace ColumnWire

/-- What a client sends. -/
inductive ClientPacket where
  | hello
  | query
  | data
  | cancel
  | ping
deriving Repr, DecidableEq, Inhabited

/-- The number of a packet. -/
def ClientPacket.code : ClientPacket → UInt64
  | .hello => 0
  | .query => 1
  | .data => 2
  | .cancel => 3
  | .ping => 4

/-- The number of a packet as it is written. -/
def ClientPacket.encode (p : ClientPacket) : Bytes := Encode.varint p.code

/-- What a server sends. -/
inductive ServerPacket where
  | hello
  | data
  | exception
  | progress
  | pong
  | endOfStream
  | profileInfo
  | tableColumns
deriving Repr, DecidableEq, Inhabited

namespace ServerPacket

/-- The number of a packet. -/
def code : ServerPacket → UInt64
  | .hello => 0
  | .data => 1
  | .exception => 2
  | .progress => 3
  | .pong => 4
  | .endOfStream => 5
  | .profileInfo => 6
  | .tableColumns => 11

/-- The packet with a number, if it is a known one. -/
def ofCode? (code : UInt64) : Option ServerPacket :=
  match code with
  | 0 => some .hello
  | 1 => some .data
  | 2 => some .exception
  | 3 => some .progress
  | 4 => some .pong
  | 5 => some .endOfStream
  | 6 => some .profileInfo
  | 11 => some .tableColumns
  | _ => none

@[simp] theorem ofCode?_code (p : ServerPacket) : ofCode? p.code = some p := by cases p <;> rfl

/-- The number of a packet as it is written. -/
def encode (p : ServerPacket) : Bytes := Encode.varint p.code

end ServerPacket

/-! ## The numbers a query carries -/
namespace Protocol

/-- The query comes from its client directly. -/
def initialQuery : UInt64 := 1

/-- The client is connected over TCP. -/
def tcpInterface : UInt64 := 1

/-- The server is to carry the query out to the end. -/
def completeStage : UInt64 := 2

/-- Whether blocks are compressed. -/
def compressionFlag (compression : Bool) : UInt64 := if compression then 1 else 0

/-- How the client names itself. -/
def clientName : String := "chwire"
def versionMajor : UInt64 := 19
def versionMinor : UInt64 := 17
def versionPatch : UInt64 := 5
def revision : UInt64 := 54428

/-- The address a query is reported to come from. -/
def clientAddress : String := "[::ffff:127.0.0.1]:0"

/-- The first server revisions with a time zone, a display name and a patch number. -/
def timezoneRevision : UInt64 := 54058
def displayNameRevision : UInt64 := 54372
def patchRevision : UInt64 := 54401

end Protocol

end ColumnWire

import ColumnWire.Block
import ColumnWire.Packet
import ColumnWire.Settings

/-!
# Requests

What a client sends. A query names its origin and its settings and says whether blocks
will be compressed; the data that belongs to it ends with an empty block.
-/
namespace ColumnWire.Request

/-- How the client introduces itself. -/
def clientInfo : Bytes :=
  Encode.text Protocol.clientName ++ Encode.varint Protocol.versionMajor ++
    Encode.varint Protocol.versionMinor ++ Encode.varint Protocol.revision

/-- The first packet of a connection. -/
def hello (database user password : String) : Bytes :=
  ClientPacket.hello.encode ++ clientInfo ++ Encode.text database ++ Encode.text user ++
    Encode.text password

/-- Where a query comes from: no user or id of an earlier query, then the address and the interface, the
user of the operating system, the host, the client, an empty quota key and the patch number. The host
stands in for the user. -/
def origin (hostname : String) : Bytes :=
  Encode.varint Protocol.initialQuery ++ Encode.text "" ++ Encode.text "" ++
    Encode.text Protocol.clientAddress ++ Encode.varint Protocol.tcpInterface ++
    Encode.text hostname ++ Encode.text hostname ++ clientInfo ++ Encode.text "" ++
    Encode.varint Protocol.versionPatch

/-- A query without an id of its own. -/
def query (compression : Bool) (hostname : String) (settings : Settings) (sql : String) : Bytes :=
  ClientPacket.query.encode ++ Encode.text "" ++ origin hostname ++ settings.encode ++
    Encode.varint Protocol.completeStage ++ Encode.varint (Protocol.compressionFlag compression) ++
    Encode.text sql

/-- A block of data; without one, the empty block that ends the data. -/
def dataBy (compress : Bytes → Bytes) (compression : Bool) (block : Option Block) : Bytes :=
  ClientPacket.data.encode ++ Block.payloadBy compress compression (block.getD .empty)

/-- A block of data with the compressor that is used. -/
def data (compression : Bool) (block : Option Block) : Bytes := dataBy Lz4.compress compression block

/-- A question whether the server is there. -/
def ping : Bytes := ClientPacket.ping.encode

/-- A wish that the server stop. -/
def cancel : Bytes := ClientPacket.cancel.encode

end ColumnWire.Request

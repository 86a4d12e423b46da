import ColumnWire.Proofs.Block.RoundTrip
import ColumnWire.Proofs.Packet.Exception
import ColumnWire.Proofs.Packet.Info
import ColumnWire.Reply

/-!
# What a policy makes of one packet

A message is a packet with its body, as a server writes it. If the body can be read, then a
policy that meets the message judges it with the stream right behind it; a policy that refuses
a packet unread leaves its body where it is, and an exception ends the reply.
-/
namespace ColumnWire

/-- A packet of a reply, with its body. -/
inductive Message where
  | hello (server : ServerInfo)
  | data (block : Block)
  | exception (e : ServerException)
  | progress (p : Progress)
  | pong
  | endOfStream
  | profileInfo (p : ProfileInfo)
  | tableColumns (t : TableColumns)
  /-- A packet with a number that is not known. Whatever its body is belongs to what follows. -/
  | unknown (code : UInt64)

namespace Message

/-- The number of the packet. -/
def code : Message → UInt64
  | .hello _ => ServerPacket.hello.code
  | .data _ => ServerPacket.data.code
  | .exception _ => ServerPacket.exception.code
  | .progress _ => ServerPacket.progress.code
  | .pong => ServerPacket.pong.code
  | .endOfStream => ServerPacket.endOfStream.code
  | .profileInfo _ => ServerPacket.profileInfo.code
  | .tableColumns _ => ServerPacket.tableColumns.code
  | .unknown code => code

/-- What follows the number. -/
def body (compression : Bool) : Message → Bytes
  | .hello server => server.encode
  | .data b => b.payload compression
  | .exception e => e.encode
  | .progress p => p.encode
  | .profileInfo p => p.encode
  | .tableColumns t => t.encode
  | .pong | .endOfStream | .unknown _ => []

/-- The message on the wire. -/
def encode (compression : Bool) (m : Message) : Bytes :=
  Encode.varint m.code ++ m.body compression

/-- The messages on the wire, back to back. -/
def encodeAll (compression : Bool) (messages : List Message) : Bytes :=
  messages.flatMap (encode compression)

/-- The body is one that can be read: a block is a table, and nothing is too long. -/
def Readable : Message → Prop
  | .data b => b.Valid ∧ b.WithinLimits
  | .exception e => e.WithinLimits
  | .tableColumns t => t.WithinLimits
  | .unknown code => ServerPacket.ofCode? code = none
  | _ => True

end Message

namespace Policy

variable {α : Type} (p : Policy α) (limit : Nat) {behind : Reader Cursor} (tray : Tray)

/-- Reading what stands in front of a reader outside of regions. -/
theorem reading_before {β γ : Type} {d : Decoder Cursor γ} {bs : Bytes} {a : γ}
    (hd : Decoder.Reads d bs a) (hout : behind.region = none) (b : β) :
    Builder.reading d (behind.before bs, b) = .ok a (behind, b) := by
  simp only [Builder.reading, hd.eq_ok_before hout]

/-- The number of a packet tells which body is to be read. -/
theorem packet_before {m : Message} {kind : ServerPacket}
    (hkind : ServerPacket.ofCode? m.code = some kind) (hout : behind.region = none)
    (compression : Bool) :
    p.packet limit (behind.before (m.encode compression), tray) =
      p.body limit kind (behind.before (m.body compression), tray) := by
  have hcode : Builder.reading Decoder.varint (behind.before (m.encode compression), tray) =
      .ok m.code (behind.before (m.body compression), tray) := by
    have hbody : (behind.before (m.body compression)).region = none := hout
    rw [Message.encode, ← Reader.before_before]
    exact reading_before (Decoder.reads_varint m.code) hbody tray
  rw [packet, bind_of_eq_ok hcode, hkind]

theorem packet_progress (info : Progress) (hout : behind.region = none) (compression : Bool) :
    p.packet limit (behind.before ((Message.progress info).encode compression), tray) =
      p.judge .progress (behind, tray) := by
  rw [p.packet_before limit tray rfl hout, body]
  exact bind_of_eq_ok (reading_before info.reads_read hout tray)

theorem packet_profileInfo (info : ProfileInfo) (hout : behind.region = none) (compression : Bool) :
    p.packet limit (behind.before ((Message.profileInfo info).encode compression), tray) =
      p.judge .profileInfo (behind, tray) := by
  rw [p.packet_before limit tray rfl hout, body]
  exact bind_of_eq_ok (reading_before info.reads_read hout tray)

theorem packet_tableColumns {t : TableColumns} (ht : t.WithinLimits) (hout : behind.region = none)
    (compression : Bool) :
    p.packet limit (behind.before ((Message.tableColumns t).encode compression), tray) =
      p.judge .tableColumns (behind, tray) := by
  rw [p.packet_before limit tray rfl hout, body]
  exact bind_of_eq_ok (reading_before (TableColumns.reads_read ht) hout tray)

theorem packet_endOfStream (hout : behind.region = none) (compression : Bool) :
    p.packet limit (behind.before (Message.endOfStream.encode compression), tray) =
      p.judge .endOfStream (behind, tray) := by
  rw [p.packet_before limit tray rfl hout]
  rfl

theorem packet_pong (hout : behind.region = none) (compression : Bool) :
    p.packet limit (behind.before (Message.pong.encode compression), tray) =
      p.judge .pong (behind, tray) := by
  rw [p.packet_before limit tray rfl hout]
  rfl

/-- A policy that takes data judges them once the block is in the tray. -/
theorem packet_data {b : Block} (htakes : p.takesData = true) (hvalid : b.Valid)
    (hlimits : b.WithinLimits) (hout : behind.region = none) :
    p.packet limit (behind.before ((Message.data b).encode behind.compression), tray) =
      p.judge .data (behind, { tray with block := b.padded }) := by
  have hblock : readBlock (behind.before (b.payload behind.compression), tray) =
      .ok () (behind, { tray with block := b.padded }) := by
    have hread := Block.readInto_payloadBy Frame.restores_compress hvalid hlimits hout tray.block
    simp only [readBlock, Block.payload, hread]
  rw [p.packet_before limit tray rfl hout, body, if_pos htakes]
  exact bind_of_eq_ok hblock

/-- A policy that takes no data refuses them unread. -/
theorem packet_data_refused {b : Block} (htakes : p.takesData = false) (hout : behind.region = none)
    (compression : Bool) :
    p.packet limit (behind.before ((Message.data b).encode compression), tray) =
      .error (.unexpectedPacket p.context ServerPacket.data.code)
        (behind.before (b.payload compression), tray) := by
  have htakes : ¬ p.takesData = true := by simp [htakes]
  rw [p.packet_before limit tray rfl hout, body, if_neg htakes]
  rfl

theorem packet_hello (server : ServerInfo) (hout : behind.region = none) (compression : Bool) :
    p.packet limit (behind.before ((Message.hello server).encode compression), tray) =
      .error (.unexpectedPacket p.context ServerPacket.hello.code)
        (behind.before server.encode, tray) := by
  rw [p.packet_before limit tray rfl hout]
  rfl

theorem packet_unknown {code : UInt64} (hcode : ServerPacket.ofCode? code = none)
    (hout : behind.region = none) (compression : Bool) :
    p.packet limit (behind.before ((Message.unknown code).encode compression), tray) =
      .error (.unexpectedPacket p.context code) (behind, tray) := by
  have hread := reading_before (Decoder.reads_varint code) hout tray
  rw [Message.encode, Message.body, List.append_nil, Message.code, packet, bind_of_eq_ok hread, hcode]
  rfl

theorem packet_exception {e : ServerException} (hdepth : e.depth ≤ limit) (hlimits : e.WithinLimits)
    (hout : behind.region = none) (compression : Bool) :
    p.packet limit (behind.before ((Message.exception e).encode compression), tray) =
      .error (.server e.tidied) (behind, tray) := by
  rw [p.packet_before limit tray rfl hout, body]
  exact bind_of_eq_ok (reading_before (ServerException.reads_read hdepth hlimits) hout tray)

/-- Of a chain that is too long, the records past the limit stay unread. -/
theorem packet_tooDeep {e : ServerException} (hdepth : limit < e.depth) (hlimits : e.WithinLimits)
    (hout : behind.region = none) (compression : Bool) :
    p.packet limit (behind.before ((Message.exception e).encode compression), tray) =
      .error (.exceptionTooDeep limit)
        (behind.before (ServerException.encodeChain (e.chain.drop limit)), tray) := by
  have hread : Builder.reading (ServerException.read limit) (behind.before e.encode, tray) =
      .error (.exceptionTooDeep limit)
        (behind.before (ServerException.encodeChain (e.chain.drop limit)), tray) := by
    simp only [Builder.reading, ServerException.read_tooDeep hdepth hlimits hout]
  rw [p.packet_before limit tray rfl hout, body]
  exact bind_eq_error.mpr (.inl hread)

end Policy

end ColumnWire

import ColumnWire.Proofs.Block.RoundTrip
import ColumnWire.Proofs.Settings.Receiver
import ColumnWire.Proofs.Stream.Outcome

/-!
# A request can be read back

A server that reads field after field of a query, with the kinds of the settings known by name, and then
a packet of data in the mode that the query announced, ends up with what the client gave out and right
behind its last byte (`Request.Order.Readable.request_before`). So two requests that begin with the same bytes are
the same, up to the padding of byte strings (`Request.query_decodable`).
-/
namespace ColumnWire

open Reader Decoder

namespace Receiver

variable {kind? : String → Option SettingKind} {rd rd' stop : Reader Cursor} {hostname sql : String}

/-! ## A server -/

theorem spends_text : Spends Reader.left text 1 :=
  spends_varint.bindLeft fun _ => ((spends_take _).weaken (Nat.zero_le _)).bindLeft fun _ => .ofPure _

theorem spends_value (kind : SettingKind) : Spends Reader.left (value kind) 1 := by
  cases kind with
  | text => exact spends_text.bindLeft fun _ => .ofPure _
  | int => exact spends_varint.bindLeft fun _ => .ofPure _
  | uint => exact spends_varint.bindLeft fun _ => .ofPure _
  | bool => exact spends_bool.bindLeft fun _ => .ofPure _

theorem spends_entry (kind? : String → Option SettingKind) : Spends Reader.left (entry kind?) 1 := by
  refine spends_text.bindLeft fun name => .ofIte (.ofPure _) ?_
  cases kind? name with
  | none => exact .ofThrow _
  | some kind => exact ((spends_value kind).weaken (Nat.zero_le _)).bindLeft fun _ => .ofPure _

/-- Read names and values up to the empty name. -/
def settings (kind? : String → Option SettingKind) (rd : Reader Cursor) :
    EStateM.Result Error (Reader Cursor) (List (String × Setting)) :=
  match _h : entry kind? rd with
  | .error e rd' => .error e rd'
  | .ok none rd' => .ok [] rd'
  | .ok (some first) rd' =>
    match settings kind? rd' with
    | .error e rd'' => .error e rd''
    | .ok rest rd'' => .ok (first :: rest) rd''
termination_by rd.left
decreasing_by
  have hspent := (spends_entry kind?).of_ok _h
  omega

/-- What a client says of itself. -/
structure Client where
  name : String
  versionMajor : UInt64
  versionMinor : UInt64
  revision : UInt64
deriving Repr, DecidableEq

/-- What a query says of where it comes from. -/
structure Origin where
  kind : UInt64
  initialUser : String
  initialId : String
  address : String
  interface : UInt64
  osUser : String
  hostname : String
  client : Client
  quotaKey : String
  versionPatch : UInt64
deriving Repr, DecidableEq

/-- All fields of a query. -/
structure Query where
  id : String
  origin : Origin
  settings : List (String × Setting)
  stage : UInt64
  compressionFlag : UInt64
  sql : String
deriving Repr, DecidableEq

/-- Read the number of a packet, which is this one. -/
def packet (p : ClientPacket) : Decoder Cursor Unit := do
  let code ← varint
  if code = p.code then return () else throw (.unexpectedPacket "request" code)

def client : Decoder Cursor Client := do
  return ⟨← text, ← varint, ← varint, ← varint⟩

def origin : Decoder Cursor Origin := do
  return ⟨← varint, ← text, ← text, ← text, ← varint, ← text, ← text, ← client, ← text, ← varint⟩

/-- Read a query. -/
def query (kind? : String → Option SettingKind) : Decoder Cursor Query := do
  packet .query
  let id ← text
  let origin ← origin
  let settings ← settings kind?
  let (stage, flag, sql) ← tail
  return ⟨id, origin, settings, stage, flag, sql⟩

/-- Read a packet of data in a mode. -/
def data (compression : Bool) : Decoder Cursor Block := do
  packet .data
  modify fun rd => { rd with compression }
  Builder.fresh .empty Block.readInto

/-- Read a query and the data behind it, which is in the mode that the query announces. -/
def request (kind? : String → Option SettingKind) : Decoder Cursor (Query × Block) := do
  let query ← query kind?
  let block ← data (query.compressionFlag = 1)
  return (query, block)

/-! ## What it reads -/

/-- The settings that are read are those that are gathered. -/
theorem settings_eq_ok_iff {got : List (String × Setting)} :
    settings kind? rd = .ok got rd' ↔ Gathers (entry kind?) rd got rd' := by
  constructor
  · intro h
    fun_induction settings kind? rd generalizing got with
    | case1 => cases h
    | case2 rd rd₁ hread =>
      cases h
      exact .ended hread
    | case3 => cases h
    | case4 rd first rd₁ hread rest rd₂ hrest ih =>
      cases h
      exact .more hread (ih hrest)
  · intro h
    induction h with
    | ended hread =>
      rw [settings]
      split <;> simp_all
    | more hread hrest ih =>
      rw [settings]
      split <;> simp_all

theorem reads_packet (p : ClientPacket) : Reads (packet p) p.encode () :=
  (reads_varint p.code).bind_last (.ofIf rfl (.pure ()))

theorem reads_client : Reads client Request.clientInfo ⟨"chwire", 19, 17, 54428⟩ := by
  have hfields : Request.clientInfo = Encode.text Protocol.clientName ++
      (Encode.varint Protocol.versionMajor ++ (Encode.varint Protocol.versionMinor ++
        Encode.varint Protocol.revision)) := by
    simp only [Request.clientInfo, List.append_assoc]
  rw [hfields]
  exact (reads_text (by decide +kernel)).bind ((reads_varint _).bind ((reads_varint _).bind
    ((reads_varint _).bind_last (.pure _))))

/-- Where the queries of a host come from. -/
def originOf (hostname : String) : Origin :=
  ⟨1, "", "", "[::ffff:127.0.0.1]:0", 1, hostname, hostname, ⟨"chwire", 19, 17, 54428⟩, "", 5⟩

theorem reads_origin (hlength : HasLength hostname) :
    Reads origin (Request.origin hostname) (originOf hostname) := by
  have hempty : Reads text (Encode.text "") "" := reads_text (by decide +kernel)
  have hfields : Request.origin hostname = Encode.varint Protocol.initialQuery ++ (Encode.text "" ++
      (Encode.text "" ++ (Encode.text Protocol.clientAddress ++ (Encode.varint Protocol.tcpInterface ++
        (Encode.text hostname ++ (Encode.text hostname ++ (Request.clientInfo ++ (Encode.text "" ++
          Encode.varint Protocol.versionPatch)))))))) := by
    simp only [Request.origin, List.append_assoc]
  rw [hfields]
  refine (reads_varint _).bind (hempty.bind (hempty.bind ?_))
  refine (reads_text (by decide +kernel)).bind ((reads_varint _).bind ?_)
  refine (reads_text hlength).bind ((reads_text hlength).bind (reads_client.bind ?_))
  exact hempty.bind ((reads_varint _).bind_last (.pure _))

/-- The settings are read to their end, if no name is empty and the kinds of all are known. -/
theorem settings_before {s : Settings} (hnames : "" ∉ s.names) (hlimits : s.WithinLimits)
    (hkinds : ∀ entry ∈ s.entries, kind? entry.1 = some entry.2.kind) (hout : stop.region = none) :
    settings kind? (stop.before s.encode) = .ok s.entries stop := by
  have hall := Settings.gathers_encode hlimits hkinds hout
  rw [Settings.beforeEnd_eq_self hnames, Settings.behindEnd_eq_nil.mpr hnames, before_nil] at hall
  exact settings_eq_ok_iff.mpr hall

theorem query_before {s : Settings} {compression : Bool} (hhostname : HasLength hostname)
    (hnames : "" ∉ s.names) (hlimits : s.WithinLimits)
    (hkinds : ∀ entry ∈ s.entries, kind? entry.1 = some entry.2.kind) (hsql : HasLength sql)
    (hout : stop.region = none) :
    query kind? (stop.before (Request.query compression hostname s sql)) = .ok ⟨"", originOf hostname,
      s.entries, 2, Protocol.compressionFlag compression, sql⟩ stop := by
  have hempty : Reads text (Encode.text "") "" := reads_text (by decide +kernel)
  have hsettings : settings kind? (stop.before (s.encode ++ Request.tail compression sql)) =
      .ok s.entries (stop.before (Request.tail compression sql)) := by
    rw [← before_before]
    exact settings_before hnames hlimits hkinds hout
  rw [Request.query_eq, List.append_assoc, List.append_assoc]
  refine ((reads_packet .query).bind_before hout _ _).trans ?_
  refine (hempty.bind_before hout _ _).trans ?_
  refine ((reads_origin hhostname).bind_before hout _ _).trans ?_
  refine (bind_of_eq_ok hsettings).trans ?_
  exact bind_of_eq_ok (tail_before hsql hout)

/-- A packet of data is read in the mode it was written in, whatever the mode was before. -/
theorem data_before {compress : Bytes → Bytes} (hrestores : Frame.Restores compress)
    {block : Option Block} (hblock : ∀ b ∈ block, b.Valid ∧ b.WithinLimits)
    (hout : stop.region = none) (mode : Bool) :
    data stop.compression ({ stop with compression := mode }.before
      (Request.dataBy compress stop.compression block)) =
        .ok ((block.map Block.padded).getD .empty) stop := by
  have hgiven : (block.getD .empty).Valid ∧ (block.getD .empty).WithinLimits := by
    cases block with
    | none => exact ⟨Block.valid_empty, Block.limits_empty⟩
    | some b => exact hblock b rfl
  have hpadded : (block.map Block.padded).getD .empty = (block.getD .empty).padded := by
    cases block with
    | none => exact (Block.padded_eq_empty.mpr rfl).symm
    | some b => rfl
  have hmode : ({ stop with compression := mode } : Reader Cursor).region = none := hout
  rw [hpadded, Request.dataBy]
  refine ((reads_packet .data).bind_before hmode _ _).trans ?_
  exact Block.fresh_payloadBy hrestores hgiven.1 hgiven.2 hout .empty

end Receiver

namespace Request

/-- What a client is asked to send: a query, and a block of data behind it. -/
structure Order where
  compression : Bool
  hostname : String
  settings : Settings
  sql : String
  block : Option Block

namespace Order

/-- The bytes of the query and of the data, compressed so. -/
def encodeBy (compress : Bytes → Bytes) (o : Order) : Bytes :=
  query o.compression o.hostname o.settings o.sql ++ dataBy compress o.compression o.block

/-- The bytes of the query and of the data. -/
def encode (o : Order) : Bytes :=
  query o.compression o.hostname o.settings o.sql ++ data o.compression o.block

/-- A server that has these kinds for the names of settings can read it back: no name is empty and all
have the kind of their value, the texts have lengths, and the block is one. -/
structure Readable (kind? : String → Option SettingKind) (o : Order) : Prop where
  hostname : HasLength o.hostname
  names : "" ∉ o.settings.names
  settings : o.settings.WithinLimits
  kinds : ∀ entry ∈ o.settings.entries, kind? entry.1 = some entry.2.kind
  sql : HasLength o.sql
  block : ∀ b ∈ o.block, b.Valid ∧ b.WithinLimits

/-- What a server makes of it. -/
def received (o : Order) : Receiver.Query × Block :=
  (⟨"", Receiver.originOf o.hostname, o.settings.entries, 2, Protocol.compressionFlag o.compression,
    o.sql⟩, (o.block.map Block.padded).getD .empty)

variable {kind? : String → Option SettingKind} {o o' : Order} {compress compress' : Bytes → Bytes}

theorem Readable.request_before (h : o.Readable kind?) (hrestores : Frame.Restores compress)
    (stop : Reader Cursor) (hout : stop.region = none) (hcompression : stop.compression = o.compression)
    (mode : Bool) :
    Receiver.request kind? ({ stop with compression := mode }.before (o.encodeBy compress)) =
      .ok o.received stop := by
  have hflag : decide (Protocol.compressionFlag o.compression = 1) = stop.compression := by
    rw [hcompression]
    cases o.compression <;> rfl
  have hquery : Receiver.query kind? ({ stop with compression := mode }.before (o.encodeBy compress)) =
      .ok o.received.1
        ({ stop with compression := mode }.before (dataBy compress o.compression o.block)) := by
    rw [encodeBy, ← before_before]
    exact Receiver.query_before h.hostname h.names h.settings h.kinds h.sql hout
  have hdata : Receiver.data (o.received.1.compressionFlag = 1)
      ({ stop with compression := mode }.before (dataBy compress o.compression o.block)) =
      .ok o.received.2 stop := by
    rw [received, hflag, ← hcompression]
    exact Receiver.data_before hrestores h.block hout mode
  exact (bind_of_eq_ok hquery).trans (bind_of_eq_ok hdata)

/-- **Requests are told apart by their bytes**, also if others follow, and even if they are not
compressed in the same way. -/
theorem Readable.unique {rest rest' : Bytes} (h : o.Readable kind?) (h' : o'.Readable kind?)
    (hrestores : Frame.Restores compress) (hrestores' : Frame.Restores compress')
    (hbytes : o.encodeBy compress ++ rest = o'.encodeBy compress' ++ rest') :
    o.received = o'.received ∧ rest = rest' := by
  have hread := h.request_before hrestores
    { source := { bytes := rest }, compression := o.compression } rfl rfl false
  have hread' := h'.request_before hrestores'
    { source := { bytes := rest' }, compression := o'.compression } rfl rfl false
  simp only [before, hbytes] at hread hread'
  rw [hread'] at hread
  injection hread with hreceived hstop
  exact ⟨hreceived.symm, (congrArg (·.source.bytes) hstop).symm⟩

/-- What is received says what was sent, up to the padding of byte strings. -/
theorem received_eq_iff : o.received = o'.received ↔
    o.hostname = o'.hostname ∧ o.settings = o'.settings ∧ o.compression = o'.compression ∧
      o.sql = o'.sql ∧ (o.block.map Block.padded).getD .empty = (o'.block.map Block.padded).getD .empty := by
  have hflag : Protocol.compressionFlag o.compression = Protocol.compressionFlag o'.compression ↔
      o.compression = o'.compression := by
    cases o.compression <;> cases o'.compression <;> decide
  have hentries : o.settings.entries = o'.settings.entries ↔ o.settings = o'.settings := by
    cases o.settings
    cases o'.settings
    simp
  simp [received, Receiver.originOf, hflag, hentries, and_assoc]

end Order

/-- **The query request is uniquely decodable.** A server with the kinds of the settings reads back what
was sent, in either mode and with any bytes behind it: the host twice, the settings in order, a flag for
the mode, the text, and the block, or the empty one. Settings that can come about have a kind for each
name. So the bytes tell what was sent, and where it ends. Of the compressor nothing is needed but that
it can be undone, and the two sides of a comparison may have different ones. -/
theorem query_decodable :
    (∀ (kind? : String → Option SettingKind) (o : Order), o.Readable kind? →
      ∀ (stop : Reader Cursor) (mode : Bool), stop.region = none → stop.compression = o.compression →
        Receiver.request kind? ({ stop with compression := mode }.before
          (query o.compression o.hostname o.settings o.sql ++ data o.compression o.block)) =
        .ok (⟨"", ⟨1, "", "", "[::ffff:127.0.0.1]:0", 1, o.hostname, o.hostname, ⟨"chwire", 19, 17, 54428⟩,
          "", 5⟩, o.settings.entries, 2, if o.compression then 1 else 0, o.sql⟩,
          (o.block.map Block.padded).getD .empty) stop) ∧
    (∀ settings : Settings, settings.Built →
      ∀ entry ∈ settings.entries, settings.kind? entry.1 = some entry.2.kind) ∧
    (∀ (kind? : String → Option SettingKind) (o o' : Order) (rest rest' : Bytes),
      o.Readable kind? → o'.Readable kind? → o.encode ++ rest = o'.encode ++ rest' →
      (o.hostname = o'.hostname ∧ o.settings = o'.settings ∧ o.compression = o'.compression ∧
        o.sql = o'.sql ∧
        (o.block.map Block.padded).getD .empty = (o'.block.map Block.padded).getD .empty) ∧
      rest = rest') ∧
    ∀ (compress compress' : Bytes → Bytes), Frame.Restores compress → Frame.Restores compress' →
      ∀ (kind? : String → Option SettingKind) (o o' : Order), o.Readable kind? → o'.Readable kind? →
        (∀ (stop : Reader Cursor) (mode : Bool), stop.region = none →
          stop.compression = o.compression →
          Receiver.request kind? ({ stop with compression := mode }.before (o.encodeBy compress)) =
            .ok o.received stop) ∧
        ∀ rest rest' : Bytes, o.encodeBy compress ++ rest = o'.encodeBy compress' ++ rest' →
          o.received = o'.received ∧ rest = rest' := by
  refine ⟨?_, ?_, ?_, ?_⟩
  · intro kind? o h stop mode hout hcompression
    exact h.request_before Frame.restores_compress stop hout hcompression mode
  · intro settings hbuilt entry hentry
    rw [Settings.kind?, Settings.get?_eq_some hbuilt.distinct hentry]
    rfl
  · intro kind? o o' rest rest' h h' hbytes
    obtain ⟨hreceived, hrest⟩ :=
      h.unique h' Frame.restores_compress Frame.restores_compress hbytes
    exact ⟨Order.received_eq_iff.mp hreceived, hrest⟩
  · intro compress compress' hrestores hrestores' kind? o o' h h'
    refine ⟨fun stop mode hout hcompression => ?_, fun rest rest' hbytes => ?_⟩
    · exact h.request_before hrestores stop hout hcompression mode
    · exact h.unique h' hrestores hrestores' hbytes

/-- A request with a setting of each kind, a negative number and a large one among them, and a byte
string that comes back with two zeros; and the same without a block. -/
theorem query_decodable_padded :
    let settings : Settings := ⟨[("priority", .int (-3)), ("max_rows", .uint 18446744073709551615),
      ("readonly", .bool true), ("log_comment", .text "täglich")]⟩
    let block : Block := ⟨1, #[⟨"s", "FixedString(3)", .fixedStrings 3 #[[65]]⟩]⟩
    let back : Block := ⟨1, #[⟨"s", "FixedString(3)", .fixedStrings 3 #[[65, 0, 0]]⟩]⟩
    let stop : Reader Cursor := { source := { bytes := [4] }, compression := true }
    let plain : Reader Cursor := { source := { bytes := [4] } }
    let origin : Receiver.Origin := ⟨1, "", "", "[::ffff:127.0.0.1]:0", 1, "here", "here",
      ⟨"chwire", 19, 17, 54428⟩, "", 5⟩
    Receiver.request settings.kind? ({ stop with compression := false }.before
        (query true "here" settings "INSERT" ++ data true (some block))) =
      .ok (⟨"", origin, settings.entries, 2, 1, "INSERT"⟩, back) stop ∧
    Receiver.request settings.kind? ({ plain with compression := false }.before
        (query false "here" settings "INSERT" ++ data false none)) =
      .ok (⟨"", origin, settings.entries, 2, 0, "INSERT"⟩, .empty) plain := by
  intro settings block back stop plain origin
  obtain ⟨hread, hkinds, -⟩ := query_decodable
  have hbuilt : settings.Built :=
    .set (.set (.set (.set .empty "priority" (.int (-3))) "max_rows" (.uint 18446744073709551615))
      "readonly" (.bool true)) "log_comment" (.text "täglich")
  have hblock : block.Valid ∧ block.WithinLimits := by
    have hcolumn : ∀ c ∈ block.columns, c = ⟨"s", "FixedString(3)", .fixedStrings 3 #[[65]]⟩ := by
      simp [block]
    refine ⟨fun c hc => ?_, by decide, by decide, fun c hc => ?_⟩
    · obtain rfl := hcolumn c hc
      exact ⟨by decide, by decide, by decide +kernel, by decide +kernel, rfl⟩
    · obtain rfl := hcolumn c hc
      exact ⟨by decide +kernel, by decide +kernel, by simp [ColumnData.WithinLimits, maxTextSize]⟩
  have hpadded : block.padded = back := by simp [block, back, Block.padded, Column.padded, ColumnData.padded]
  have hhostname : HasLength "here" := by decide +kernel
  have hnames : "" ∉ settings.names := by decide +kernel
  have hlimits : settings.WithinLimits := by decide +kernel
  have hsql : HasLength "INSERT" := by decide +kernel
  refine ⟨?_, ?_⟩
  · have hgot := hread settings.kind? ⟨true, "here", settings, "INSERT", some block⟩
      ⟨hhostname, hnames, hlimits, hkinds settings hbuilt, hsql, by simpa using hblock⟩ stop false rfl rfl
    simp only [Option.map_some, Option.getD_some, hpadded] at hgot
    exact hgot
  · exact hread settings.kind? ⟨false, "here", settings, "INSERT", none⟩
      ⟨hhostname, hnames, hlimits, hkinds settings hbuilt, hsql, by simp⟩ plain false rfl rfl

end Request

end ColumnWire

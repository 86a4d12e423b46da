import Mathlib
import ColumnWire.Proofs.Block.RoundTrip
import ColumnWire.Proofs.Client.Reuse
import ColumnWire.Proofs.Reply.Run

/-!
# How an insertion ends its data

Once the server has told which columns it expects, an insertion sends two packets of data: its
block, and the empty block, which ends the data. A server that gathers blocks up to the empty one
(`readData`) has then read all that was sent, and the connection is in step. Only if the block of the
insertion is the empty one itself does the server stop in front of the second packet, and takes it for
the beginning of the next request (`insertion_data`, `insertion_out_of_step`).
-/
namespace ColumnWire

open Reader Builder Decoder

/-! ## A server that takes data -/

/-- Read a packet of data. The empty block ends the data. -/
def readData : Decoder Cursor (Option Block) := do
  let code ← Decoder.varint
  if code = ClientPacket.data.code then
    let b ← fresh .empty Block.readInto
    return if b = .empty then none else some b
  else throw (.unexpectedPacket "data" code)

namespace Block

variable {b : Block} {stop rd : Reader Cursor} {blocks : List Block}

/-- A packet of data is read just to its end. -/
theorem readData_before (hvalid : b.Valid) (hlimits : b.WithinLimits) (hout : stop.region = none) :
    readData (stop.before (Request.data stop.compression (some b))) =
      .ok (if b = .empty then none else some b.padded) stop := by
  rw [Request.data, Request.dataBy]
  refine ((Decoder.reads_varint ClientPacket.data.code).bind_before hout _ _).trans ?_
  rw [if_pos rfl]
  refine bind_eq_ok.mpr ⟨b.padded, stop, ?_, ?_⟩
  · exact Block.fresh_payloadBy Frame.restores_compress hvalid hlimits hout .empty
  · simp only [padded_eq_empty]
    rfl

/-- **What a server gathers from the data of an insertion**, and where it stops. -/
theorem gathers_iff (hvalid : b.Valid) (hlimits : b.WithinLimits) (hout : stop.region = none) :
    Gathers readData (stop.before (Request.data stop.compression (some b) ++
        Request.data stop.compression none)) blocks rd ↔
      if b = .empty then blocks = [] ∧ rd = stop.before (Request.data stop.compression none)
      else blocks = [b.padded] ∧ rd = stop := by
  have hout' : (stop.before (Request.data stop.compression none)).region = none := hout
  have hfirst := readData_before hvalid hlimits hout'
  have hlast : readData (stop.before (Request.data stop.compression none)) = .ok none stop :=
    readData_before valid_empty limits_empty hout
  rw [← before_before]
  by_cases hempty : b = .empty
  · rw [if_pos hempty] at hfirst ⊢
    exact (Gathers.ended hfirst).iff
  · rw [if_neg hempty] at hfirst ⊢
    exact (Gathers.more hfirst (.ended hlast)).iff

end Block

/-! ## What is sent -/

namespace Connection

variable {σ α β : Type} {c c' : Connection σ}

/-- The connection when a dialogue is over. -/
def after (d : Dialogue σ α) (c : Connection σ) : Connection σ :=
  match d c with
  | .ok _ c' | .error _ c' => c'

theorem after_bind {x : Dialogue σ α} {a : α} (h : x c = .ok a c') (f : α → Dialogue σ β) :
    after (x >>= f) c = after (f a) c' := by
  unfold after
  rw [bind_of_eq_ok h]

/-- A dialogue that sends nothing. -/
def Quiet (d : Dialogue σ α) : Prop := ∀ c, (after d c).sent = c.sent

theorem quiet_pure (a : α) : Quiet (pure a : Dialogue σ α) := fun _ => rfl

/-- What sends nothing adds nothing to what was sent before. -/
theorem sent_bind {f : α → Dialogue σ β} (hf : ∀ a, Quiet (f a)) (x : Dialogue σ α)
    (c : Connection σ) : (after (x >>= f) c).sent = (after x c).sent := by
  unfold after
  cases hx : x c with
  | ok a c₁ =>
    rw [bind_of_eq_ok hx]
    exact hf a c₁
  | error e c₁ => rw [bind_eq_error.mpr (.inl hx)]

theorem Quiet.bind {x : Dialogue σ α} {f : α → Dialogue σ β} (hx : Quiet x) (hf : ∀ a, Quiet (f a)) :
    Quiet (x >>= f) := fun c => (sent_bind hf x c).trans (hx c)

/-- An answer changes nothing but how far the connection is read. -/
theorem after_answer [Source σ] (p : Policy α) (limit : Nat) (c : Connection σ) :
    ∃ reader, after (answer p limit) c = { c with reader } := by
  unfold after answer reply
  rcases p.run limit (c.reader, {}) with ⟨a, rd, tray⟩ | ⟨e, rd, tray⟩ <;> exact ⟨rd, rfl⟩

theorem quiet_answer [Source σ] (p : Policy α) (limit : Nat) : Quiet (answer (σ := σ) p limit) := by
  intro c
  obtain ⟨reader, hafter⟩ := after_answer p limit c
  rw [hafter]

/-- A request is sent as a whole if the peer takes it, and else not at all. -/
theorem sent_say {bs : Bytes} (hbs : bs ≠ []) (hempty : c.writer.bytes = []) :
    (after (say bs) c).sent = if c.sinks.headD .ready = .ready then c.sent ++ [bs] else c.sent := by
  have hwriter : c.writer.append bs = { c.writer with bytes := bs } := by
    rw [Writer.append, hempty, List.nil_append]
  have hsay : say bs c = flush { c with writer := { c.writer with bytes := bs } } := by
    rw [← hwriter]
    rfl
  obtain ⟨b, rest, rfl⟩ := List.exists_cons_of_ne_nil hbs
  unfold after
  rw [hsay, flush]
  cases c.sinks.headD .ready <;> simp only [Writer.flush] <;> rfl

end Connection

namespace Client

variable {σ : Type} [Source σ] {c : Client σ} {conn conn' : Connection σ} {sql : String} {block sample : Block}

/-- Send the statement of an insertion, and read which columns the server expects. -/
def askColumns (sql : String) (c : Client σ) : Dialogue σ Block := do
  c.sendQuery sql
  Connection.answer Policy.sampleBlock c.exceptionLimit

/-- Read the acknowledgement of an insertion. -/
def readAcknowledgement (rows : Nat) (c : Client σ) : Dialogue σ Nat := do
  let packet ← Connection.answer Policy.onePacket c.exceptionLimit
  if packet ≠ .endOfStream then
    let _ ← Connection.answer Policy.rowCount c.exceptionLimit
  return rows

/-- An insertion says its rows between the sample and the acknowledgement. -/
theorem insertOn_eq (sql : String) (block : Block) (c : Client σ) :
    c.insertOn sql block = (c.askColumns sql >>= fun _ =>
      Connection.say (c.rowData block) >>= fun _ => c.readAcknowledgement block.rows) := by
  rw [askColumns, bind_assoc]
  unfold insertOn readAcknowledgement
  simp only [rowData, ← write_flush, ← write_write]

theorem quiet_readAcknowledgement (rows : Nat) (c : Client σ) :
    Connection.Quiet (c.readAcknowledgement rows) := by
  refine (Connection.quiet_answer _ _).bind fun packet => ?_
  split
  · exact (Connection.quiet_answer _ _).bind fun _ => Connection.quiet_pure _
  · exact Connection.quiet_pure _

/-- Asking for the columns sends the statement, and leaves nothing to be written. -/
theorem askColumns_eq_ok (hempty : conn.writer.bytes = [])
    (h : c.askColumns sql conn = .ok sample conn') :
    conn'.writer.bytes = [] ∧ conn'.sent = conn.sent ++ [c.statement sql] := by
  have hsay : c.sendQuery sql = Connection.say (c.statement sql) :=
    write_write _ _ Connection.flush
  obtain ⟨u, conn₁, hsend, hanswer⟩ := bind_eq_ok.mp h
  rw [hsay] at hsend
  obtain ⟨hwriter, hsent, -⟩ := Connection.say_eq_ok hempty hsend
  obtain ⟨reader, hafter⟩ := Connection.after_answer Policy.sampleBlock c.exceptionLimit conn₁
  rw [Connection.after, hanswer] at hafter
  rw [show conn' = { conn₁ with reader } from hafter]
  exact ⟨hwriter, hsent⟩

omit [Source σ] in
theorem rowData_ne_nil (block : Block) (c : Client σ) : c.rowData block ≠ [] := by
  intro hnil
  obtain ⟨hblock, -⟩ := List.append_eq_nil_iff.mp hnil
  obtain ⟨hcode, -⟩ := List.append_eq_nil_iff.mp hblock
  exact absurd hcode (by decide +kernel)

/-- What an insertion sends behind its statement: its data if the peer takes it, and else nothing. -/
theorem sent_insertOn (hempty : conn.writer.bytes = []) (h : c.askColumns sql conn = .ok sample conn')
    (block : Block) : (Connection.after (c.insertOn sql block) conn).sent =
      if conn'.sinks.headD .ready = .ready then conn'.sent ++ [c.rowData block] else conn'.sent := by
  obtain ⟨hempty', -⟩ := askColumns_eq_ok hempty h
  rw [insertOn_eq, Connection.after_bind h,
    Connection.sent_bind fun _ => quiet_readAcknowledgement block.rows c]
  exact Connection.sent_say (rowData_ne_nil block c) hempty'

end Client

namespace ClientSystem

variable {σ : Type} [Source σ]

/-- A server that says who it is, names no columns, and takes what is inserted. -/
def shop : Peer Cursor where
  source := { bytes := [0, 0, 1, 2, 3, 1, 0, 1, 0, 2, 255, 255, 255, 255, 0, 0, 0, 5] }

def shopping : ClientSystem Cursor := start { compression := false } "" (fun _ => .connected shop) 1

/-- The client when it has greeted the shop. -/
def shopper : Client Cursor := { shopping.client with pool := { size := 1, free := 0, nextId := 2 } }

/-- The connection when the shop has been greeted. -/
def greetedShop : Connection Cursor :=
  let config : Config := { compression := false }
  let fresh := Connection.fresh config 1 shop ⟨0⟩
  { fresh with
    reader := { fresh.reader with source := { bytes := shop.source.bytes.drop 5 } }
    sent := [Request.hello config.database config.user config.password]
    marks := [fresh.reader]
    server := some { major := 1, minor := 2, revision := 3 } }

/-- The connection when the shop has named its columns. -/
def askedShop : Connection Cursor := { greetedShop with
  reader := { greetedShop.reader with source := { bytes := [5] } }
  sent := greetedShop.sent ++ [shopper.statement "INSERT"]
  marks := greetedShop.marks ++ [greetedShop.reader] }

theorem welcome_shopping :
    (Client.acquire >>= Client.welcome) shopping.client = .ok greetedShop shopper := by
  cbv

theorem askColumns_shopper : shopper.askColumns "INSERT" greetedShop = .ok .empty askedShop := by
  have hsend : shopper.sendQuery "INSERT" greetedShop =
      .ok () { askedShop with reader := greetedShop.reader } := by cbv
  have hpacket : Policy.sampleBlock.packet shopper.exceptionLimit (greetedShop.reader, {}) =
      .ok (some .empty) (askedShop.reader, {}) := by cbv
  refine bind_eq_ok.mpr ⟨(), _, hsend, ?_⟩
  simp only [Connection.answer, Connection.reply, Policy.run_of_done hpacket]

/-- **The data of an insertion.** A client may have any history. Once a server that it is connected to
has told which columns it expects for an insertion, what it sends are two packets of data, the
block and the empty block, unless they cannot be handed over; then it sends nothing more. A server
that reads blocks up to the empty one gathers the block and stops just behind the data; but if the
block is the empty one, it gathers nothing, and it stops in front of the second packet. -/
theorem insertion_data (config : Config) (hostname : String) (network : Network σ) (size : Nat)
    (history : List ClientAction) (sql : String) {block : Block} (hblock : block.Reachable)
    (hlimits : block.WithinLimits) {conn conn' : Connection σ} {c : Client σ} {sample : Block}
    (hwelcome : (Client.acquire >>= Client.welcome) ((start config hostname network size).run
      history).client = .ok conn c)
    (hsample : c.askColumns sql conn = .ok sample conn') :
    let last := Request.data config.compression none
    let data := Request.data config.compression (some block) ++ last
    (Connection.after (c.insertOn sql block) conn).sent =
        (if conn'.sinks.headD .ready = .ready then conn'.sent ++ [data] else conn'.sent) ∧
      ∀ stop : Reader Cursor, stop.region = none → stop.compression = config.compression →
        ∀ blocks rd, Gathers readData (stop.before data) blocks rd ↔
          if block = .empty then blocks = [] ∧ rd = stop.before last
          else blocks = [block.padded] ∧ rd = stop := by
  obtain ⟨ledger, hsound⟩ := sound_run_start config hostname network size history
  obtain ⟨conn₁, c₁, hacquire, hwelcome⟩ := bind_eq_ok.mp hwelcome
  have hready := hsound.client.acquire
  rw [hacquire] at hready
  obtain ⟨ledger', hclient, hsettled, -⟩ := hready.1.welcome_ok hready.2 hwelcome
  have hconfig : c.config = config := hclient.config_eq
  intro last data
  refine ⟨?_, fun stop hout hmode blocks rd => ?_⟩
  · rw [Client.sent_insertOn hsettled.life.writer_empty hsample, Client.rowData, hconfig]
  · simp only [data, last, ← hmode]
    exact Block.gathers_iff hblock.valid hlimits hout

/-- The shop gathers a block of one column, and is in step. -/
theorem insertion_data_shop :
    let block : Block := ⟨1, #[⟨"n", "UInt8", .scalars .uint8 #[7]⟩]⟩
    let data := Request.data false (some block) ++ Request.data false none
    let stop : Reader Cursor := ⟨⟨[4], .closed⟩, none, false, none⟩
    block.Reachable ∧ block.WithinLimits ∧
      (Client.acquire >>= Client.welcome) (shopping.run []).client = .ok greetedShop shopper ∧
      shopper.askColumns "INSERT" greetedShop = .ok .empty askedShop ∧
      (Connection.after (shopper.insertOn "INSERT" block) greetedShop).sent = askedShop.sent ++ [data] ∧
      Gathers readData (stop.before data) [block] stop := by
  intro block data stop
  have hblock : block.Reachable := by
    refine .push .empty (c := ⟨"n", "UInt8", .scalars .uint8 #[7]⟩) ?_
    have hfault : Block.empty.fault? ⟨"n", "UInt8", .scalars .uint8 #[7]⟩ = none := by decide +kernel
    rw [Block.push, hfault]
    rfl
  have hlimits : block.WithinLimits := by
    refine ⟨by decide, by decide, fun c hc => ?_⟩
    obtain rfl : c = ⟨"n", "UInt8", .scalars .uint8 #[7]⟩ := by simpa [block] using hc
    exact ⟨by decide +kernel, by decide +kernel, by simp [ColumnData.WithinLimits, Scalar.size, maxTextSize]⟩
  obtain ⟨hsent, hgathers⟩ := insertion_data { compression := false } "" (fun _ => .connected shop) 1 []
    "INSERT" hblock hlimits welcome_shopping askColumns_shopper
  have hpadded : block.padded = block := by simp [block, Block.padded, Column.padded, ColumnData.padded]
  have hall := (hgathers stop rfl rfl [block.padded] stop).mpr ⟨rfl, rfl⟩
  rw [hpadded] at hall
  exact ⟨hblock, hlimits, welcome_shopping, askColumns_shopper, hsent, hall⟩

/-- **The empty block ends the data twice**, and a server that stops at the first end never gets to
the end of what was sent. -/
theorem insertion_out_of_step :
    let last := Request.data false none
    let stop : Reader Cursor := ⟨⟨[4], .closed⟩, none, false, none⟩
    (Client.acquire >>= Client.welcome) shopping.client = .ok greetedShop shopper ∧
      shopper.askColumns "INSERT" greetedShop = .ok .empty askedShop ∧
      (Connection.after (shopper.insertOn "INSERT" .empty) greetedShop).sent =
        askedShop.sent ++ [last ++ last] ∧
      Gathers readData (stop.before (last ++ last)) [] (stop.before last) ∧
      ¬ ∃ blocks, Gathers readData (stop.before (last ++ last)) blocks stop := by
  intro last stop
  have hsent := Client.sent_insertOn rfl askColumns_shopper .empty
  have hgathers : Gathers readData (stop.before (last ++ last)) [] (stop.before last) :=
    (Block.gathers_iff (b := .empty) Block.valid_empty Block.limits_empty rfl).mpr ⟨rfl, rfl⟩
  refine ⟨welcome_shopping, askColumns_shopper, hsent, hgathers, ?_⟩
  rintro ⟨blocks, hall⟩
  have hsame := congrArg (·.source.bytes.length) (hall.unique hgathers).2
  exact absurd hsame (by decide +kernel)

end ClientSystem

end ColumnWire

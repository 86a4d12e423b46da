import ColumnWire.Proofs.Reply.Message
import ColumnWire.Proofs.Reply.Run

/-!
# The table of policies

The table says of each policy which messages it goes on after (`goesOn`) and what it is done
with after which others (`done?`); all else it refuses, and an exception ends every reply.
`run_messages` says that reading a reply is looking it up: the longest run of messages that a
policy goes on after is skipped, and the next one decides, with the stream where the table
leaves it. The table is written down here for itself; it does not look at the policies.
-/
namespace ColumnWire

/-- The policies, by name. -/
inductive Handler where
  | sampleBlock | rowCount | onePacket | pong | nextBlock | drain
deriving Repr, DecidableEq

namespace Message

/-- The block of a data packet. -/
def block? : Message → Option Block
  | .data b => some b
  | _ => none

/-- The block that is in the tray after a message has been decoded into it. -/
def leave (last : Block) : Message → Block
  | .data b => b.padded
  | _ => last

/-- The rows of all blocks, if there is a block. -/
def rowTotal (messages : List Message) : Option Nat :=
  match messages.filterMap block? with
  | [] => none
  | blocks => some (blocks.foldl (fun total b => total + b.rows) 0)

/-- What is left of a message that is refused: those that are refused unread keep their body. -/
def unread (compression : Bool) : Message → Bytes
  | .hello server => server.encode
  | .data b => b.payload compression
  | _ => []

@[simp] theorem rowTotal_nil : rowTotal [] = none := rfl

theorem rowTotal_data (messages : List Message) (b : Block) :
    rowTotal (messages ++ [.data b]) = some ((rowTotal messages).getD 0 + b.rows) := by
  have hblocks : (messages ++ [Message.data b]).filterMap block? =
      messages.filterMap block? ++ [b] := by
    simp [block?]
  simp only [rowTotal, hblocks]
  cases messages.filterMap block? with
  | nil => simp
  | cons c blocks => simp

theorem rowTotal_of_not_data {m : Message} (hm : m.block? = none) (messages : List Message) :
    rowTotal (messages ++ [m]) = rowTotal messages := by
  simp [rowTotal, hm]

end Message

namespace Handler

/-- What a reply is for. -/
def Output : Handler → Type
  | .sampleBlock => Block
  | .rowCount => Option Nat
  | .onePacket => ServerPacket
  | .pong => Unit
  | .nextBlock => Bool
  | .drain => Unit

/-- The policy of the name. -/
def policy : (h : Handler) → Policy h.Output
  | .sampleBlock => Policy.sampleBlock
  | .rowCount => Policy.rowCount
  | .onePacket => Policy.onePacket
  | .pong => Policy.pong
  | .nextBlock => Policy.nextBlock
  | .drain => Policy.drain

/-! ## The table -/

/-- How a refusal calls the reply. -/
def context : Handler → String
  | .sampleBlock => "read_sample_block"
  | .rowCount => "read_data_blocks"
  | .onePacket => "read_packet"
  | .pong => "read_pong"
  | .nextBlock => "read_stream_block"
  | .drain => "drain"

/-- The messages after which the reply goes on. -/
def goesOn : Handler → Message → Bool
  | .rowCount, .data _ | .drain, .data _ => true
  | .sampleBlock, .progress _ | .sampleBlock, .profileInfo _ | .sampleBlock, .tableColumns _ => true
  | .rowCount, .progress _ | .rowCount, .profileInfo _ | .rowCount, .tableColumns _ => true
  | .nextBlock, .progress _ | .nextBlock, .profileInfo _ | .nextBlock, .tableColumns _ => true
  | .drain, .progress _ | .drain, .profileInfo _ | .drain, .tableColumns _ => true
  | _, _ => false

/-- What the reply comes to with a message, after those that were skipped. -/
def done? : (h : Handler) → (skipped : List Message) → Message → Option h.Output
  | .sampleBlock, _, .data b => some b.padded
  | .rowCount, skipped, .endOfStream => some (Message.rowTotal skipped)
  | .onePacket, _, .progress _ => some ServerPacket.progress
  | .onePacket, _, .profileInfo _ => some ServerPacket.profileInfo
  | .onePacket, _, .tableColumns _ => some ServerPacket.tableColumns
  | .onePacket, _, .endOfStream => some ServerPacket.endOfStream
  | .pong, _, .endOfStream | .pong, _, .pong => some ()
  | .nextBlock, _, .data _ => some true
  | .nextBlock, _, .endOfStream => some false
  | .drain, _, .endOfStream => some ()
  | _, _, _ => none

/-- The tray while the reply goes on. -/
def gathered (h : Handler) (target : Block) (skipped : List Message) : Tray where
  block := skipped.foldl Message.leave target
  counted := if h = .rowCount then Message.rowTotal skipped else none

/-- The tray that is left when the reply is done: a sample and a count are taken out of it. -/
def settled (h : Handler) (target : Block) (skipped : List Message) (m : Message) : Tray where
  block := if h = .sampleBlock then .empty else m.leave (skipped.foldl Message.leave target)
  counted := none

/-- What comes of the message that decides, with `behind` right behind it. -/
def outcome (h : Handler) (limit : Nat) (target : Block) (skipped : List Message)
    (behind : Reader Cursor) (m : Message) : EStateM.Result Error (Reader Cursor × Tray) h.Output :=
  match m with
  | .exception e =>
    if e.depth ≤ limit then .error (.server e.tidied) (behind, h.gathered target skipped)
    else .error (.exceptionTooDeep limit)
      (behind.before (ServerException.encodeChain (e.chain.drop limit)), h.gathered target skipped)
  | m =>
    match h.done? skipped m with
    | some value => .ok value (behind, h.settled target skipped m)
    | none => .error (.unexpectedPacket h.context m.code)
      (behind.before (m.unread behind.compression), h.gathered target skipped)

/-! ## One message -/

variable (h : Handler) (limit : Nat) (target : Block) (skipped : List Message)
variable {behind : Reader Cursor} {m : Message}

/-- What is no block does not change the tray. -/
theorem gathered_of_not_data (hm : m.block? = none) :
    h.gathered target (skipped ++ [m]) = h.gathered target skipped := by
  have hleave (last : Block) : m.leave last = last := by
    cases m with
    | data b => cases hm
    | _ => rfl
  simp [gathered, hleave, Message.rowTotal_of_not_data hm]

/-- A message after which the reply goes on is read, and what it brings is gathered. -/
theorem packet_goesOn (hm : h.goesOn m = true) (hreadable : m.Readable)
    (hout : behind.region = none) :
    h.policy.packet limit (behind.before (m.encode behind.compression), h.gathered target skipped) =
      .ok none (behind, h.gathered target (skipped ++ [m])) := by
  cases m with
  | data b =>
    obtain ⟨hvalid, hlimits⟩ := hreadable
    cases h with
    | rowCount =>
      rw [Policy.packet_data _ _ _ rfl hvalid hlimits hout]
      simp [Policy.judge, policy, Policy.rowCount, gathered, Message.leave, Message.rowTotal_data,
        Block.padded]
    | drain =>
      rw [Policy.packet_data _ _ _ rfl hvalid hlimits hout]
      simp [Policy.judge, policy, Policy.drain, gathered, Message.leave]
    | sampleBlock | onePacket | pong | nextBlock => cases hm
  | progress p =>
    rw [Policy.packet_progress _ _ _ _ hout, h.gathered_of_not_data target skipped rfl]
    cases h with
    | sampleBlock | rowCount | nextBlock | drain => rfl
    | onePacket | pong => cases hm
  | profileInfo p =>
    rw [Policy.packet_profileInfo _ _ _ _ hout, h.gathered_of_not_data target skipped rfl]
    cases h with
    | sampleBlock | rowCount | nextBlock | drain => rfl
    | onePacket | pong => cases hm
  | tableColumns t =>
    rw [Policy.packet_tableColumns _ _ _ hreadable hout, h.gathered_of_not_data target skipped rfl]
    cases h with
    | sampleBlock | rowCount | nextBlock | drain => rfl
    | onePacket | pong => cases hm
  | hello | exception | pong | endOfStream | unknown => cases h <;> cases hm

/-- Any other message decides. -/
theorem packet_decides (hm : h.goesOn m = false) (hreadable : m.Readable)
    (hout : behind.region = none) :
    h.policy.packet limit (behind.before (m.encode behind.compression), h.gathered target skipped) =
      match h.outcome limit target skipped behind m with
      | .ok value s => .ok (some value) s
      | .error e s => .error e s := by
  cases m with
  | hello server =>
    rw [Policy.packet_hello _ _ _ _ hout]
    cases h <;> rfl
  | data b =>
    obtain ⟨hvalid, hlimits⟩ := hreadable
    cases h with
    | sampleBlock | nextBlock =>
      rw [Policy.packet_data _ _ _ rfl hvalid hlimits hout]
      rfl
    | onePacket | pong =>
      rw [Policy.packet_data_refused _ _ _ rfl hout]
      rfl
    | rowCount | drain => cases hm
  | exception e =>
    by_cases hdepth : e.depth ≤ limit
    · rw [Policy.packet_exception _ _ _ hdepth hreadable hout, outcome, if_pos hdepth]
    · rw [Policy.packet_tooDeep _ _ _ (Nat.lt_of_not_le hdepth) hreadable hout, outcome,
        if_neg hdepth]
  | progress p =>
    rw [Policy.packet_progress _ _ _ _ hout]
    cases h with
    | sampleBlock | rowCount | nextBlock | drain => cases hm
    | onePacket | pong => rfl
  | profileInfo p =>
    rw [Policy.packet_profileInfo _ _ _ _ hout]
    cases h with
    | sampleBlock | rowCount | nextBlock | drain => cases hm
    | onePacket | pong => rfl
  | tableColumns t =>
    rw [Policy.packet_tableColumns _ _ _ hreadable hout]
    cases h with
    | sampleBlock | rowCount | nextBlock | drain => cases hm
    | onePacket | pong => rfl
  | pong =>
    rw [Policy.packet_pong _ _ _ hout]
    cases h <;> rfl
  | endOfStream =>
    rw [Policy.packet_endOfStream _ _ _ hout]
    cases h <;> rfl
  | unknown code =>
    rw [Policy.packet_unknown _ _ _ hreadable hout]
    cases h <;> rfl

/-! ## All messages -/

/-- After `skipped`, the reply goes on in the same way. -/
theorem run_gathered (messages : List Message) (hreadable : ∀ m ∈ messages, m.Readable)
    {stop : Reader Cursor} (hout : stop.region = none) :
    h.policy.run limit (stop.before (Message.encodeAll stop.compression messages),
        h.gathered target skipped) =
      match messages.dropWhile h.goesOn with
      | [] => h.policy.run limit (stop, h.gathered target (skipped ++ messages))
      | m :: later => h.outcome limit target (skipped ++ messages.takeWhile h.goesOn)
        (stop.before (Message.encodeAll stop.compression later)) m := by
  induction messages generalizing skipped with
  | nil => simp [Message.encodeAll]
  | cons m messages ih =>
    have hm : m.Readable := hreadable m (List.mem_cons_self ..)
    -- What is behind the first message.
    obtain ⟨behind, hbehind⟩ : ∃ behind, behind =
      stop.before (Message.encodeAll stop.compression messages) := ⟨_, rfl⟩
    have hout' : behind.region = none := hbehind ▸ hout
    have hwire : stop.before (Message.encodeAll stop.compression (m :: messages)) =
        behind.before (m.encode behind.compression) := by
      rw [hbehind, Message.encodeAll, List.flatMap_cons, Reader.before_before]
      rfl
    rw [hwire]
    cases hgoesOn : h.goesOn m with
    | true =>
      have hpacket := h.packet_goesOn limit target skipped hgoesOn hm hout'
      have hrest := ih (skipped ++ [m]) fun m' hm' => hreadable m' (List.mem_cons_of_mem _ hm')
      rw [← hbehind] at hrest
      rw [Policy.run_of_goOn hpacket, hrest, List.dropWhile_cons_of_pos hgoesOn,
        List.takeWhile_cons_of_pos hgoesOn]
      simp only [List.append_assoc, List.singleton_append]
    | false =>
      have hpacket := h.packet_decides limit target skipped hgoesOn hm hout'
      have hstop : ¬ h.goesOn m = true := by simp [hgoesOn]
      rw [List.dropWhile_cons_of_neg hstop, List.takeWhile_cons_of_neg hstop, List.append_nil]
      simp only [← hbehind]
      cases houtcome : h.outcome limit target skipped behind m with
      | ok value s =>
        rw [houtcome] at hpacket
        exact Policy.run_of_done hpacket
      | error e s =>
        rw [houtcome] at hpacket
        exact Policy.run_of_error hpacket

/-- **Reading a reply is looking it up in the table.** Of messages that can be read, whatever is
behind them, each policy skips the longest run of those it goes on after, and the next message
decides: what the reply comes to, and where the stream is left. Without such a message the reply goes
on with what is behind. -/
theorem run_messages (messages : List Message) (hreadable : ∀ m ∈ messages, m.Readable)
    {stop : Reader Cursor} (hout : stop.region = none) :
    h.policy.run limit (stop.before (Message.encodeAll stop.compression messages),
        { block := target }) =
      match messages.dropWhile h.goesOn with
      | [] => h.policy.run limit (stop, h.gathered target messages)
      | m :: later => h.outcome limit target (messages.takeWhile h.goesOn)
        (stop.before (Message.encodeAll stop.compression later)) m := by
  have hfresh : ({ block := target } : Tray) = h.gathered target [] := by simp [gathered]
  rw [hfresh]
  exact h.run_gathered limit target [] messages hreadable hout

/-- Two rows are counted under compression, with another answer behind the end of the stream. -/
theorem run_messages_counting :
    Policy.rowCount.run 8 (Reader.before ⟨⟨[4], .closed⟩, none, true, none⟩ (Message.encodeAll true
        [.progress {}, .data ⟨2, #[⟨"n", "UInt8", .scalars .uint8 #[1, 2]⟩]⟩, .endOfStream, .pong]), {}) =
      .ok (some 2) (Reader.before ⟨⟨[4], .closed⟩, none, true, none⟩ (Message.encodeAll true [.pong]),
        ⟨⟨2, #[⟨"n", "UInt8", .scalars .uint8 #[1, 2]⟩]⟩, none⟩) := by
  have hdata : (Message.data ⟨2, #[⟨"n", "UInt8", .scalars .uint8 #[1, 2]⟩]⟩).Readable := by
    refine ⟨?_, by decide, by decide, ?_⟩
    · intro c hc
      obtain rfl : c = ⟨"n", "UInt8", .scalars .uint8 #[1, 2]⟩ := by simpa using hc
      exact ⟨by decide, by decide, by decide +kernel, rfl, rfl⟩
    · intro c hc
      obtain rfl : c = ⟨"n", "UInt8", .scalars .uint8 #[1, 2]⟩ := by simpa using hc
      exact ⟨by decide +kernel, by decide +kernel,
        by simp [ColumnData.WithinLimits, Scalar.size, maxTextSize]⟩
  have hreadable : ∀ m ∈ [.progress {}, .data ⟨2, #[⟨"n", "UInt8", .scalars .uint8 #[1, 2]⟩]⟩,
      .endOfStream, .pong], Message.Readable m := by
    simp only [List.forall_mem_cons]
    exact ⟨trivial, hdata, trivial, trivial, List.forall_mem_nil _⟩
  have hout : (⟨⟨[4], .closed⟩, none, true, none⟩ : Reader Cursor).region = none := rfl
  have hpadded : Block.padded ⟨2, #[⟨"n", "UInt8", .scalars .uint8 #[1, 2]⟩]⟩ =
      ⟨2, #[⟨"n", "UInt8", .scalars .uint8 #[1, 2]⟩]⟩ := by
    simp [Block.padded, Column.padded, ColumnData.padded]
  have hrun := run_messages .rowCount 8 .empty _ hreadable hout
  simp only [List.dropWhile, List.takeWhile, goesOn, outcome, done?, settled, List.foldl, Message.leave,
    hpadded] at hrun
  exact hrun

end Handler

end ColumnWire

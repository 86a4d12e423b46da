import ColumnWire.Block
import ColumnWire.Packet.Exception
import ColumnWire.Packet.Info

/-!
# Replies

A reply is a run of packets. What each packet means depends on the request it answers:
a policy goes on, is done, or refuses the packet. An exception ends every reply. Data
packets are decoded into a tray that outlives the reply, also one that fails.

| policy        | data        | progress and the like | end of stream | pong    |
|---------------|-------------|-----------------------|---------------|---------|
| `sampleBlock` | the block   | goes on               | refused       | refused |
| `rowCount`    | goes on     | goes on               | the count     | refused |
| `onePacket`   | refused     | that packet           | that packet   | refused |
| `pong`        | refused     | refused               | done          | done    |
| `nextBlock`   | a block     | goes on               | no block      | refused |
| `drain`       | goes on     | goes on               | done          | refused |
-/
namespace ColumnWire

/-- What a reply is gathered in. -/
structure Tray where
  /-- The block of the last data packet. -/
  block : Block := .empty
  /-- Rows of all blocks, once there was one. The sum is not cut to 64 bits: a count of rows is below
  two to the 30th, so it takes more than two to the 34th blocks to get there. -/
  counted : Option Nat := none
deriving DecidableEq, Inhabited

/-- What follows from a packet. -/
inductive Verdict (α : Type) where
  | refused
  | goOn
  | done (value : α)

/-- What the packets of a reply mean. -/
structure Policy (α : Type) where
  /-- How a refusal calls the reply. -/
  context : String
  /-- Whether data packets are decoded; otherwise they are refused unread. -/
  takesData : Bool
  /-- The meaning of a packet once it has been read. -/
  onPacket : ServerPacket → Tray → Verdict α × Tray

namespace Policy

/-- The first block, which tells what columns a table has. -/
def sampleBlock : Policy Block where
  context := "read_sample_block"
  takesData := true
  onPacket
    | .data, tray => (.done tray.block, { tray with block := .empty })
    | .progress, tray | .profileInfo, tray | .tableColumns, tray => (.goOn, tray)
    | _, tray => (.refused, tray)

/-- The rows of all blocks up to the end of the stream, or nothing if there was no block. -/
def rowCount : Policy (Option Nat) where
  context := "read_data_blocks"
  takesData := true
  onPacket
    | .data, tray => (.goOn, { tray with counted := some (tray.counted.getD 0 + tray.block.rows) })
    | .progress, tray | .profileInfo, tray | .tableColumns, tray => (.goOn, tray)
    | .endOfStream, tray => (.done tray.counted, { tray with counted := none })
    | _, tray => (.refused, tray)

/-- One packet that acknowledges something, and which one it was. -/
def onePacket : Policy ServerPacket where
  context := "read_packet"
  takesData := false
  onPacket
    | .progress, tray => (.done .progress, tray)
    | .profileInfo, tray => (.done .profileInfo, tray)
    | .tableColumns, tray => (.done .tableColumns, tray)
    | .endOfStream, tray => (.done .endOfStream, tray)
    | _, tray => (.refused, tray)

/-- The answer to a ping. -/
def pong : Policy Unit where
  context := "read_pong"
  takesData := false
  onPacket
    | .endOfStream, tray | .pong, tray => (.done (), tray)
    | _, tray => (.refused, tray)

/-- The next block of a result, left in the tray; false at the end of the stream. -/
def nextBlock : Policy Bool where
  context := "read_stream_block"
  takesData := true
  onPacket
    | .data, tray => (.done true, tray)
    | .progress, tray | .profileInfo, tray | .tableColumns, tray => (.goOn, tray)
    | .endOfStream, tray => (.done false, tray)
    | _, tray => (.refused, tray)

/-- The rest of a result that nobody wants any more. -/
def drain : Policy Unit where
  context := "drain"
  takesData := true
  onPacket
    | .data, tray | .progress, tray | .profileInfo, tray | .tableColumns, tray => (.goOn, tray)
    | .endOfStream, tray => (.done (), tray)
    | _, tray => (.refused, tray)

variable {σ α : Type} [Source σ]

/-- Judge a packet that has been read. -/
def judge (p : Policy α) (packet : ServerPacket) : Builder σ Tray (Option α) := fun (rd, tray) =>
  match p.onPacket packet tray with
  | (.refused, tray) => .error (.unexpectedPacket p.context packet.code) (rd, tray)
  | (.goOn, tray) => .ok none (rd, tray)
  | (.done a, tray) => .ok (some a) (rd, tray)

/-- Refuse a packet. -/
def refuse (p : Policy α) (code : UInt64) : Builder σ Tray (Option α) :=
  throw (.unexpectedPacket p.context code)

/-- Decode a data packet into the tray. -/
def readBlock : Builder σ Tray Unit := fun (rd, tray) =>
  match Block.readInto (rd, tray.block) with
  | .ok () (rd, block) => .ok () (rd, { tray with block })
  | .error e (rd, block) => .error e (rd, { tray with block })

/-- Read the body of a packet and judge it. -/
def body (p : Policy α) (limit : Nat) : ServerPacket → Builder σ Tray (Option α)
  | .hello => p.refuse ServerPacket.hello.code
  | .exception => do
    let e ← Builder.reading (ServerException.read limit)
    throw (.server e)
  | .data =>
    if p.takesData then do
      readBlock
      p.judge .data
    else p.refuse ServerPacket.data.code
  | .progress => do
    let _ ← Builder.reading Progress.read
    p.judge .progress
  | .profileInfo => do
    let _ ← Builder.reading ProfileInfo.read
    p.judge .profileInfo
  | .tableColumns => do
    let _ ← Builder.reading TableColumns.read
    p.judge .tableColumns
  | .endOfStream => p.judge .endOfStream
  | .pong => p.judge .pong

/-- Read one packet and judge it. -/
def packet (p : Policy α) (limit : Nat) : Builder σ Tray (Option α) := do
  let code ← Builder.reading Decoder.varint
  match ServerPacket.ofCode? code with
  | none => p.refuse code
  | some packet => p.body limit packet

theorem spends_judge (p : Policy α) (packet : ServerPacket) :
    Spends Builder.left (p.judge (σ := σ) packet) 0 where
  of_ok {s s' a} h := by
    rcases hj : p.onPacket packet s.2 with ⟨_ | _ | v, tray⟩ <;>
      simp only [judge, hj] at h <;> cases h <;> exact Nat.le_refl _
  of_error {s s' e} h := by
    rcases hj : p.onPacket packet s.2 with ⟨_ | _ | v, tray⟩ <;>
      simp only [judge, hj] at h <;> cases h
    exact Nat.le_refl _

theorem spends_readBlock : Spends Builder.left (readBlock (σ := σ)) 0 where
  of_ok {s s' a} h := by
    unfold readBlock at h
    cases hr : Block.readInto (s.1, s.2.block) with
    | ok u s₁ => simp only [hr] at h; cases h; exact Block.spends_readInto.of_ok hr
    | error e s₁ => simp [hr] at h
  of_error {s s' e} h := by
    unfold readBlock at h
    cases hr : Block.readInto (s.1, s.2.block) with
    | ok u s₁ => simp [hr] at h
    | error e s₁ => simp only [hr] at h; cases h; exact Block.spends_readInto.of_error hr

theorem spends_body (p : Policy α) (limit : Nat) (packet : ServerPacket) :
    Spends Builder.left (p.body (σ := σ) limit packet) 0 := by
  cases packet with
  | hello => exact Spends.ofThrow _
  | exception =>
    exact (Builder.spends_reading (ServerException.spends_read limit)).bindLeft fun _ =>
      Spends.ofThrow _
  | data => exact Spends.ofIte (spends_readBlock.bindLeft fun _ => p.spends_judge _) (Spends.ofThrow _)
  | progress => exact (Builder.spends_reading Progress.spends_read).bindLeft fun _ => p.spends_judge _
  | profileInfo =>
    exact (Builder.spends_reading ProfileInfo.spends_read).bindLeft fun _ => p.spends_judge _
  | tableColumns =>
    exact (Builder.spends_reading TableColumns.spends_read).bindLeft fun _ => p.spends_judge _
  | endOfStream => exact p.spends_judge _
  | pong => exact p.spends_judge _

/-- A packet takes at least one byte. -/
theorem spends_packet (p : Policy α) (limit : Nat) :
    Spends Builder.left (p.packet (σ := σ) limit) 1 := by
  refine (Builder.spends_reading Decoder.spends_varint).bindLeft fun code => ?_
  cases ServerPacket.ofCode? code with
  | none => exact Spends.ofThrow _
  | some packet => exact p.spends_body limit packet

/-- Read packets until the policy is done. -/
def run (p : Policy α) (limit : Nat) (s : Reader σ × Tray) :
    EStateM.Result Error (Reader σ × Tray) α :=
  match _h : p.packet limit s with
  | .error e s' => .error e s'
  | .ok (some a) s' => .ok a s'
  | .ok none s' => run p limit s'
termination_by s.1.left
decreasing_by
  have := (p.spends_packet limit).of_ok _h
  simp only [Builder.left] at this
  omega

/-- A reply takes at least one byte. -/
theorem spends_run (p : Policy α) (limit : Nat) :
    Spends Builder.left (p.run (σ := σ) limit) 1 where
  of_ok {s s' a} h := by
    fun_induction run p limit s with
    | case1 s e s₁ hp => cases h
    | case2 s b s₁ hp => cases h; exact (p.spends_packet limit).of_ok hp
    | case3 s s₁ hp ih =>
      have := (p.spends_packet limit).of_ok hp
      have := ih h
      omega
  of_error {s s' e} h := by
    fun_induction run p limit s with
    | case1 s e s₁ hp => cases h; exact (p.spends_packet limit).of_error hp
    | case2 s b s₁ hp => cases h
    | case3 s s₁ hp ih =>
      have := (p.spends_packet limit).of_ok hp
      have := ih h
      omega

end Policy

end ColumnWire

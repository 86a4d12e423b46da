import ColumnWire.Proofs.Stream.Value
import ColumnWire.Stream.Writer

/-!
# Compression makes no difference to what is read

A plan is a run of reader calls, each of which may depend on what those before it gave.
What a plan reads off plain bytes is decided by the bytes that it uses up (`Parses`), so it
reads the same off any cut of them into frames. A writer, for its part, puts a cut of what it
would have written plainly into the same place, whatever its compressor is
(`withCompressionBy_writeAll`). The two meet in `compression_transparent`.
-/
namespace ColumnWire

namespace Decoder

open Reader

variable {α β : Type}

/-- Off a plain stream, what the decoder yields is decided by the bytes that it uses up. -/
structure Parses (d : Decoder Cursor α) : Prop where
  of_ok : ∀ {rd rd' : Reader Cursor} {a : α}, rd.region = none → d rd = .ok a rd' →
    ∃ bs, rd = rd'.before bs ∧ Reads d bs a

namespace Parses

variable {d : Decoder Cursor α} {f : α → Decoder Cursor β}

protected theorem pure (a : α) : Parses (pure a : Decoder Cursor α) := by
  constructor
  intro rd rd' b _ h
  obtain ⟨rfl, rfl⟩ := pure_eq_ok.mp h
  exact ⟨[], rfl, .pure _⟩

protected theorem throw (e : Error) : Parses (throw e : Decoder Cursor α) :=
  ⟨fun _ h => absurd h throw_ne_ok⟩

protected theorem bind (hd : Parses d) (hf : ∀ a, Parses (f a)) : Parses (d >>= f) := by
  constructor
  intro rd rd' b hout h
  obtain ⟨a, rd₁, hd₁, hf₁⟩ := bind_eq_ok.mp h
  obtain ⟨first, rfl, hfirst⟩ := hd.of_ok hout hd₁
  obtain ⟨second, rfl, hsecond⟩ := (hf a).of_ok (by simpa using hout) hf₁
  exact ⟨first ++ second, before_before .., hfirst.bind hsecond⟩

theorem ofIte {c : Prop} [Decidable c] {x y : Decoder Cursor α} (hx : Parses x) (hy : Parses y) :
    Parses (if c then x else y) := by
  split
  · exact hx
  · exact hy

protected theorem take (n : Nat) : Parses (take (σ := Cursor) n) := by
  constructor
  intro rd rd' bs hout h
  simp only [take, hout] at h
  obtain ⟨rfl, rfl⟩ := takeRaw_eq_ok h
  exact ⟨bs, rfl, .take bs⟩

protected theorem byte : Parses byte := (Parses.take 1).bind fun _ => .pure _

protected theorem word (n : Nat) : Parses (word n) := (Parses.take n).bind fun _ => .pure _

protected theorem varintFrom (digitsLeft value weight : Nat) :
    Parses (varintFrom digitsLeft value weight) := by
  induction digitsLeft generalizing value weight with
  | zero => exact .throw _
  | succ k ih => exact Parses.byte.bind fun b => .ofIte (.throw _) (.ofIte (.pure _) (ih _ _))

protected theorem bytes (n : Nat) : Parses (bytes n) := .ofIte (.throw _) (.take n)

protected theorem textBytes : Parses textBytes :=
  (Parses.varintFrom _ _ _).bind fun _ => .ofIte (.throw _) (.take _)

end Parses

end Decoder

/-! ## Calls of a reader -/

/-- One call of a reader. -/
inductive ReadCall where
  | byte | bool
  | int8 | uint16 | int16 | uint32 | int32 | uint64 | int64
  | float32 | float64
  | varint
  | bytes (n : Nat)
  | textBytes | text
deriving Repr, DecidableEq

namespace ReadCall

/-- What a call gives. A floating-point number is given by its bits. -/
abbrev Value : ReadCall → Type
  | .byte => UInt8
  | .bool => Bool
  | .int8 => Int8
  | .uint16 => UInt16
  | .int16 => Int16
  | .uint32 | .float32 => UInt32
  | .int32 => Int32
  | .uint64 | .float64 | .varint => UInt64
  | .int64 => Int64
  | .bytes _ | .textBytes => Bytes
  | .text => String

/-- Carry a call out. -/
def run {σ : Type} [Source σ] : (c : ReadCall) → Decoder σ c.Value
  | .byte => Decoder.byte
  | .bool => Decoder.bool
  | .int8 => Decoder.int8
  | .uint16 => Decoder.uint16
  | .int16 => Decoder.int16
  | .uint32 | .float32 => Decoder.uint32
  | .int32 => Decoder.int32
  | .uint64 | .float64 => Decoder.uint64
  | .int64 => Decoder.int64
  | .varint => Decoder.varint
  | .bytes n => Decoder.bytes n
  | .textBytes => Decoder.textBytes
  | .text => Decoder.text

theorem parses_run (c : ReadCall) : Decoder.Parses c.run := by
  cases c with
  | byte => exact .byte
  | bool => exact Decoder.Parses.byte.bind fun _ => .pure _
  | int8 => exact Decoder.Parses.byte.bind fun _ => .pure _
  | uint16 => exact (Decoder.Parses.word 2).bind fun _ => .pure _
  | int16 => exact ((Decoder.Parses.word 2).bind fun _ => .pure _).bind fun _ => .pure _
  | uint32 | float32 => exact (Decoder.Parses.word 4).bind fun _ => .pure _
  | int32 => exact ((Decoder.Parses.word 4).bind fun _ => .pure _).bind fun _ => .pure _
  | uint64 | float64 => exact (Decoder.Parses.word 8).bind fun _ => .pure _
  | int64 => exact ((Decoder.Parses.word 8).bind fun _ => .pure _).bind fun _ => .pure _
  | varint => exact .varintFrom _ _ _
  | bytes n => exact .bytes n
  | textBytes => exact .textBytes
  | text => exact Decoder.Parses.textBytes.bind fun _ => .pure _

end ReadCall

/-- A run of calls, each chosen in view of what those before it gave. -/
inductive ReadPlan (α : Type) where
  | done (a : α)
  | call (c : ReadCall) (next : c.Value → ReadPlan α)

namespace ReadPlan

variable {α : Type}

/-- Carry the calls out in order. -/
def run {σ : Type} [Source σ] : ReadPlan α → Decoder σ α
  | .done a => pure a
  | .call c next => do (next (← c.run)).run

theorem parses_run (plan : ReadPlan α) : Decoder.Parses plan.run := by
  induction plan with
  | done a => exact .pure a
  | call c next ih => exact c.parses_run.bind ih

/-- A plan that gets through plain bytes gets through any cut of them in the same way. -/
theorem run_framed (plan : ReadPlan α) {plain stop : Reader Cursor} {content wire : Bytes} {a : α}
    (hplain : plain.region = none) (hrun : plan.run (plain.before content) = .ok a plain)
    (hcompression : stop.compression = true) (hout : stop.region = none)
    (hcut : Frame.Cut wire content) :
    ∃ rd, plan.run (stop.before wire).beginCompressed = .ok a rd ∧ rd.endCompressed = stop := by
  obtain ⟨used, hused, hreads⟩ := plan.parses_run.of_ok (by simpa using hplain) hrun
  have hsource := congrArg (·.source.bytes) hused
  have hcontent : content ++ [] = used ++ [] := by
    rw [List.append_nil, List.append_nil]
    exact List.append_cancel_right hsource
  have hbegin : (stop.before wire).beginCompressed = (stop.inside []).before wire := by
    simp [Reader.beginCompressed, Reader.before, Reader.inside, hcompression]
  have hoffers : Reader.Offers stop true (stop.before wire).beginCompressed (used ++ []) := by
    rw [hbegin, ← hcontent, List.append_nil]
    exact .framed [] hcut
  obtain ⟨rd, hframed, hend⟩ := hreads.of_offers hoffers
  exact ⟨rd, hframed, hend.endCompressed hout⟩

end ReadPlan

/-! ## Calls of a writer -/

/-- One call of a writer that appends. A floating-point number is given by its bits. -/
inductive WriteCall where
  | byte (b : UInt8) | bool (b : Bool)
  | int8 (v : Int8) | uint16 (v : UInt16) | int16 (v : Int16) | uint32 (v : UInt32)
  | int32 (v : Int32) | uint64 (v : UInt64) | int64 (v : Int64)
  | float32 (bits : UInt32) | float64 (bits : UInt64)
  | varint (v : UInt64)
  | raw (bs : Bytes)
  | textBytes (bs : Bytes)
deriving Repr, DecidableEq

/-- What a call appends. -/
def WriteCall.encode : WriteCall → Bytes
  | .byte b => [b]
  | .bool b => Encode.bool b
  | .int8 v => [v.toUInt8]
  | .uint16 v => LittleEndian.encode 2 v.toNat
  | .int16 v => LittleEndian.encode 2 v.toUInt16.toNat
  | .uint32 v | .float32 v => LittleEndian.encode 4 v.toNat
  | .int32 v => Encode.int32 v
  | .uint64 v | .float64 v => LittleEndian.encode 8 v.toNat
  | .int64 v => LittleEndian.encode 8 v.toUInt64.toNat
  | .varint v => Encode.varint v
  | .raw bs => bs
  | .textBytes bs => Encode.textBytes bs

namespace Writer

/-- Carry calls out in order. -/
def writeAll (calls : List WriteCall) (w : Writer) : Writer :=
  calls.foldl (fun w c => w.append c.encode) w

theorem writeAll_eq_append (calls : List WriteCall) (w : Writer) :
    writeAll calls w = w.append (calls.flatMap WriteCall.encode) := by
  induction calls generalizing w with
  | nil => simp [writeAll, append]
  | cons c calls ih =>
    have hstep : writeAll (c :: calls) w = writeAll calls (w.append c.encode) := rfl
    rw [hstep, ih]
    simp [append]

/-- What was written before stays, and behind it stand the frames of what the calls append. -/
theorem withCompressionBy_writeAll (compress : Bytes → Bytes) (calls : List WriteCall) (w : Writer) :
    w.withCompressionBy compress (writeAll calls) =
      w.append (Frame.packBy compress w.compression (calls.flatMap WriteCall.encode)) := by
  have hcalls : writeAll calls = (·.append (calls.flatMap WriteCall.encode)) := by
    funext w
    exact writeAll_eq_append calls w
  rw [hcalls, withCompressionBy_append]

end Writer

/-! ## Both together -/

section
variable {compress : Bytes → Bytes}

/-- Under compression calls append a cut of what they append plainly. -/
theorem Writer.writeAll_cut (hrestores : Frame.Restores compress) (calls : List WriteCall)
    (w plain : Writer) (hw : w.compression = true) (hplain : plain.compression = false) :
    ∃ content wire, writeAll calls plain = plain.append content ∧
      plain.withCompressionBy compress (writeAll calls) = plain.append content ∧
      w.withCompressionBy compress (writeAll calls) = w.append wire ∧ Frame.Cut wire content := by
  refine ⟨calls.flatMap WriteCall.encode, Frame.encodeAllBy compress (calls.flatMap WriteCall.encode),
    writeAll_eq_append calls plain, ?_, ?_, hrestores.cut_encodeAllBy _⟩
  · rw [withCompressionBy_writeAll, hplain, Frame.packBy_false]
  · rw [withCompressionBy_writeAll, hw, Frame.packBy_true]

/-- A plan reads what calls have written under compression as it reads what they write plainly. -/
theorem ReadPlan.run_written {α : Type} (hrestores : Frame.Restores compress) (plan : ReadPlan α)
    (calls : List WriteCall) (w : Writer) (plain stop : Reader Cursor) (a : α)
    (hw : w.compression = true) (hplain : plain.region = none) (hcompression : stop.compression = true)
    (hout : stop.region = none)
    (hrun : plan.run (plain.before (Writer.writeAll calls {}).bytes) = .ok a plain) :
    ∃ wire rd, w.withCompressionBy compress (Writer.writeAll calls) = w.append wire ∧
      plan.run (stop.before wire).beginCompressed = .ok a rd ∧ rd.endCompressed = stop := by
  have hbytes : (Writer.writeAll calls {}).bytes = calls.flatMap WriteCall.encode := by
    rw [Writer.writeAll_eq_append]
    rfl
  rw [hbytes] at hrun
  obtain ⟨rd, hframed, hend⟩ :=
    plan.run_framed hplain hrun hcompression hout (hrestores.cut_encodeAllBy _)
  refine ⟨_, rd, ?_, hframed, hend⟩
  rw [Writer.withCompressionBy_writeAll, hw, Frame.packBy_true]

end

/-- **Compression is transparent.** Whatever a plan reads off plain bytes it reads off any cut of
them into valid frames, and leaves the stream right behind the last frame. Whatever calls append to
a plain writer, a compressing writer appends a cut of. So what was written under compression is read
under compression as if neither had been there. Of the compressor nothing is needed but that it can be
undone. -/
theorem compression_transparent :
    (∀ {α : Type} (plan : ReadPlan α) (plain stop : Reader Cursor) (content wire : Bytes) (a : α),
      plain.region = none → plan.run (plain.before content) = .ok a plain →
      stop.compression = true → stop.region = none → Frame.Cut wire content →
        ∃ rd, plan.run (stop.before wire).beginCompressed = .ok a rd ∧ rd.endCompressed = stop) ∧
    (∀ (calls : List WriteCall) (w plain : Writer), w.compression = true → plain.compression = false →
      ∃ content wire, Writer.writeAll calls plain = plain.append content ∧
        plain.withCompression (Writer.writeAll calls) = plain.append content ∧
        w.withCompression (Writer.writeAll calls) = w.append wire ∧ Frame.Cut wire content) ∧
    (∀ {α : Type} (plan : ReadPlan α) (calls : List WriteCall) (w : Writer) (plain stop : Reader Cursor)
      (a : α), w.compression = true → plain.region = none → stop.compression = true →
      stop.region = none →
      plan.run (plain.before (Writer.writeAll calls {}).bytes) = .ok a plain →
        ∃ wire rd, w.withCompression (Writer.writeAll calls) = w.append wire ∧
          plan.run (stop.before wire).beginCompressed = .ok a rd ∧ rd.endCompressed = stop) ∧
    ∀ compress : Bytes → Bytes, Frame.Restores compress →
      (∀ (calls : List WriteCall) (w plain : Writer), w.compression = true →
        plain.compression = false →
        ∃ content wire, Writer.writeAll calls plain = plain.append content ∧
          plain.withCompressionBy compress (Writer.writeAll calls) = plain.append content ∧
          w.withCompressionBy compress (Writer.writeAll calls) = w.append wire ∧
          Frame.Cut wire content) ∧
      ∀ {α : Type} (plan : ReadPlan α) (calls : List WriteCall) (w : Writer)
        (plain stop : Reader Cursor) (a : α), w.compression = true → plain.region = none →
        stop.compression = true → stop.region = none →
        plan.run (plain.before (Writer.writeAll calls {}).bytes) = .ok a plain →
          ∃ wire rd, w.withCompressionBy compress (Writer.writeAll calls) = w.append wire ∧
            plan.run (stop.before wire).beginCompressed = .ok a rd ∧ rd.endCompressed = stop := by
  refine ⟨?_, ?_, ?_, ?_⟩
  · intro α plan plain stop content wire a hplain hrun hcompression hout hcut
    exact plan.run_framed hplain hrun hcompression hout hcut
  · exact Writer.writeAll_cut Frame.restores_compress
  · exact ReadPlan.run_written Frame.restores_compress
  · intro compress hrestores
    exact ⟨Writer.writeAll_cut hrestores, ReadPlan.run_written hrestores⟩

/-- A number that straddles two frames, and the same number written under compression and read back,
each with a byte behind it. -/
theorem compression_transparent_straddling :
    (∃ rd, (ReadPlan.call .uint16 .done).run
        (Reader.before ⟨⟨[9], .closed⟩, none, true, none⟩
          (Frame.assemble Frame.stored 1 [5] ++ (Frame.assemble Frame.stored 1 [7] ++
            []))).beginCompressed = .ok (1797 : UInt16) rd ∧
      rd.endCompressed = ⟨⟨[9], .closed⟩, none, true, none⟩) ∧
    (∃ content wire, Writer.writeAll [.uint16 1797] {} = Writer.append {} content ∧
      Writer.withCompression (Writer.writeAll [.uint16 1797]) {} = Writer.append {} content ∧
      Writer.withCompression (Writer.writeAll [.uint16 1797]) ⟨true, [3]⟩ =
        Writer.append ⟨true, [3]⟩ wire ∧ Frame.Cut wire content) ∧
    (∃ wire rd, Writer.withCompression (Writer.writeAll [.uint16 1797]) ⟨true, [3]⟩ =
        Writer.append ⟨true, [3]⟩ wire ∧
      (ReadPlan.call .uint16 .done).run
        (Reader.before ⟨⟨[9], .closed⟩, none, true, none⟩ wire).beginCompressed =
          .ok (1797 : UInt16) rd ∧
      rd.endCompressed = ⟨⟨[9], .closed⟩, none, true, none⟩) ∧
    Frame.Restores Lz4.compress ∧
    ∃ wire rd, Writer.withCompressionBy Lz4.compress (Writer.writeAll [.uint16 1797]) ⟨true, [3]⟩ =
        Writer.append ⟨true, [3]⟩ wire ∧
      (ReadPlan.call .uint16 .done).run
        (Reader.before ⟨⟨[9], .closed⟩, none, true, none⟩ wire).beginCompressed =
          .ok (1797 : UInt16) rd ∧
      rd.endCompressed = ⟨⟨[9], .closed⟩, none, true, none⟩ := by
  have hfirst : Frame.Holds (Frame.assemble Frame.stored 1 [5]) [5] := .stored (by decide)
  have hsecond : Frame.Holds (Frame.assemble Frame.stored 1 [7]) [7] := .stored (by decide)
  refine ⟨?_, ?_, ?_, Frame.restores_compress, ?_⟩
  · exact compression_transparent.1 (.call .uint16 .done) ⟨⟨[9], .closed⟩, none, false, none⟩
      ⟨⟨[9], .closed⟩, none, true, none⟩ ([5] ++ ([7] ++ [])) _ 1797 rfl rfl rfl rfl
      (.cons hfirst (by decide) (.cons hsecond (by decide) .nil))
  · exact compression_transparent.2.1 [.uint16 1797] ⟨true, [3]⟩ {} rfl rfl
  · exact compression_transparent.2.2.1 (.call .uint16 .done) [.uint16 1797] ⟨true, [3]⟩
      ⟨⟨[], .closed⟩, none, false, none⟩ ⟨⟨[9], .closed⟩, none, true, none⟩ 1797 rfl rfl rfl rfl rfl
  · exact (compression_transparent.2.2.2 Lz4.compress Frame.restores_compress).2
      (.call .uint16 .done) [.uint16 1797] ⟨true, [3]⟩ ⟨⟨[], .closed⟩, none, false, none⟩
      ⟨⟨[9], .closed⟩, none, true, none⟩ 1797 rfl rfl rfl rfl rfl

end ColumnWire

import ColumnWire.Proofs.Block.Validity

/-!
# Blocks are read as they were written

What `payload` makes of a block is read back into any other block, compressed or not, and
reading stops right behind it (`readInto_payload`); which compressor has written it makes no
difference (`readInto_payloadBy`). Only the byte strings differ: they come
back filled up with zeros. The limits are those of the reader, one for each length that it
checks.
-/
namespace ColumnWire

open Decoder Builder

/-- The column as it comes back. -/
def Column.padded (c : Column) : Column := { c with data := c.data.padded }

/-- The column can be read back. -/
structure Column.WithinLimits (c : Column) : Prop where
  name_le : (Utf8.encode c.name).length ≤ maxTextSize
  typeName_le : (Utf8.encode c.typeName).length ≤ maxTextSize
  data : c.data.WithinLimits

namespace Block

/-- The block as it comes back. -/
def padded (b : Block) : Block := { b with columns := b.columns.map Column.padded }

/-- The block can be read back. -/
structure WithinLimits (b : Block) : Prop where
  columns_le : b.columns.size ≤ maxColumns
  rows_le : b.rows ≤ maxRows
  columns : ∀ c ∈ b.columns, c.WithinLimits

theorem limits_empty : WithinLimits .empty := ⟨Nat.zero_le _, Nat.zero_le _, by simp [empty]⟩

theorem padded_eq_empty {b : Block} : b.padded = .empty ↔ b = .empty := by
  obtain ⟨rows, columns⟩ := b
  simp only [padded, empty, Block.mk.injEq, Array.map_eq_empty_iff]

theorem reads_expectField (n : UInt64) : Reads (expectField n) (Encode.varint n) () :=
  (reads_varint n).bind_last (.ofIf rfl (.pure ()))

theorem reads_skipInfo : Reads skipInfo info () := by
  have hfields : info = Encode.varint overflowsField ++ (Encode.bool false ++
      (Encode.varint bucketField ++ (Encode.int32 (-1) ++ Encode.varint endField))) := by
    simp only [info, List.append_assoc]
  rw [hfields]
  refine (reads_expectField _).bind ?_
  refine (reads_bool false).bind ?_
  refine (reads_expectField _).bind ?_
  exact (reads_int32 (-1)).bind (reads_expectField _)

theorem reads_limitedCount {n limit : Nat} (fault : Nat → Nat → WireFault) (hn : n ≤ limit)
    (hlimit : limit < UInt64.size) : Reads (limitedCount limit fault) (Encode.count n) n := by
  obtain ⟨v, hv, rfl⟩ := reads_count (Nat.lt_of_le_of_lt hn hlimit)
  exact hv.bind_last (.ofIf hn (.pure _))

/-- A column is read back if as many rows are asked for as it has. -/
theorem reads_readColumn {rows : Nat} {c : Column} (hvalid : c.Valid rows) (hlimits : c.WithinLimits) :
    Reads (readColumn rows) (encodeColumn c) c.padded := by
  have htype : ColumnType.parse? c.typeName = some c.data.type := by
    simpa [ColumnData.fits] using hvalid.fits
  have hdata := ColumnData.reads_read hvalid.narrow hlimits.data
  rw [hvalid.size_eq] at hdata
  rw [encodeColumn, List.append_assoc]
  refine (reads_text hlimits.name_le).bind (.ofElse hvalid.name_ne ?_)
  refine (reads_text hlimits.typeName_le).bind (.ofElse hvalid.typeName_ne ?_)
  rw [htype]
  exact hdata.bind_last (.pure _)

/-- Columns are read back one after another, behind those that are there. -/
theorem builds_readColumns {rows : Nat} (columns : List Column)
    (hvalid : ∀ c ∈ columns, c.Valid rows) (hlimits : ∀ c ∈ columns, c.WithinLimits) (start : Block) :
    Builds (readColumns rows columns.length) start (columns.flatMap encodeColumn) ()
      { start with columns := start.columns ++ (columns.map Column.padded).toArray } := by
  induction columns generalizing start with
  | nil =>
    have hnone : start.columns ++ (([] : List Column).map Column.padded).toArray = start.columns := by
      simp
    rw [hnone]
    exact .pure () start
  | cons c columns ih =>
    have hfirst := reads_readColumn (hvalid c (List.mem_cons_self ..)) (hlimits c (List.mem_cons_self ..))
    have hrest := ih (fun d hd => hvalid d (List.mem_cons_of_mem _ hd))
      (fun d hd => hlimits d (List.mem_cons_of_mem _ hd))
      { start with columns := start.columns.push c.padded }
    have hcolumns : start.columns.push c.padded ++ (columns.map Column.padded).toArray =
        start.columns ++ ((c :: columns).map Column.padded).toArray := by
      simp
    rw [hcolumns] at hrest
    rw [List.flatMap_cons]
    exact (Builds.reading hfirst start).bind ((Builds.update _ start).bind_first hrest)

/-- Whatever was in the block before is replaced. -/
theorem builds_readBody {b : Block} (hvalid : b.Valid) (hlimits : b.WithinLimits) (target : Block) :
    Builds readBody target b.encode () b.padded := by
  have hcolumns := builds_readColumns b.columns.toList (fun c hc => hvalid c (Array.mem_toList_iff.mp hc))
    (fun c hc => hlimits.columns c (Array.mem_toList_iff.mp hc)) { rows := b.rows }
  rw [← Array.toList_map, Array.toArray_toList, Array.empty_append, Array.length_toList] at hcolumns
  rw [encode, List.append_assoc]
  refine (Builds.reading (reads_limitedCount _ hlimits.columns_le (by decide)) target).bind ?_
  refine (Builds.reading (reads_limitedCount _ hlimits.rows_le (by decide)) target).bind ?_
  exact (Builds.put target _).bind_first hcolumns

section
variable {compress : Bytes → Bytes} {b : Block} {stop : Reader Cursor}

/-- A valid block is read back from what it was written to, whichever compressor wrote it. -/
theorem readInto_payloadBy (hrestores : Frame.Restores compress) (hvalid : b.Valid)
    (hlimits : b.WithinLimits) (hout : stop.region = none) (target : Block) :
    readInto (stop.before (b.payloadBy compress stop.compression), target) =
      .ok () (stop, b.padded) := by
  have hwire : if stop.compression then
      Frame.Cut (Frame.packBy compress stop.compression (info ++ b.encode)) (info ++ b.encode)
      else Frame.packBy compress stop.compression (info ++ b.encode) = info ++ b.encode := by
    cases stop.compression with
    | false => exact Frame.packBy_false _ _
    | true => exact hrestores.cut_encodeAllBy _
  have htable : Decoder.text (stop.before (b.payloadBy compress stop.compression)) =
      .ok "" (stop.before (Frame.packBy compress stop.compression (info ++ b.encode))) := by
    rw [payloadBy, ← Reader.before_before]
    exact (reads_text (by decide)).eq_ok_before hout
  have hinside : Builds (do reading skipInfo; readBody) target (info ++ b.encode) () b.padded :=
    (Builds.reading reads_skipInfo target).bind (builds_readBody hvalid hlimits target)
  refine bind_eq_ok.mpr ⟨"", (_, target), ?_, hinside.compressed hout hwire⟩
  simp only [Builder.reading, htable]

theorem fresh_payloadBy (hrestores : Frame.Restores compress) (hvalid : b.Valid)
    (hlimits : b.WithinLimits) (hout : stop.region = none) (start : Block) :
    fresh start readInto (stop.before (b.payloadBy compress stop.compression)) = .ok b.padded stop := by
  simp only [fresh, readInto_payloadBy hrestores hvalid hlimits hout]

end

/-- **Blocks round trip.** However a block came about, if it is within the limits of the reader then
what is written of it, in either mode and with any bytes behind it, is read back into any block, up to
the padding of byte strings; the reader is outside of regions then, right behind the payload. So it is
with the compressor that is used, and with every other one that can be undone. -/
theorem readInto_payload {b : Block} (hb : b.Reachable) (hlimits : b.WithinLimits)
    {stop : Reader Cursor} (hout : stop.region = none) (target : Block) :
    readInto (stop.before (b.payload stop.compression), target) = .ok () (stop, b.padded) ∧
      ∀ compress : Bytes → Bytes, Frame.Restores compress →
        readInto (stop.before (b.payloadBy compress stop.compression), target) =
          .ok () (stop, b.padded) :=
  ⟨readInto_payloadBy Frame.restores_compress hb.valid hlimits hout target,
    fun _ hrestores => readInto_payloadBy hrestores hb.valid hlimits hout target⟩

/-- A block of one byte string, which comes back with two zeros, over a block that had a row. -/
theorem readInto_payload_padding :
    Block.empty.push ⟨"s", "FixedString(3)", .fixedStrings 3 #[[65]]⟩ =
      .ok ⟨1, #[⟨"s", "FixedString(3)", .fixedStrings 3 #[[65]]⟩]⟩ ∧
    readInto (Reader.before ⟨⟨[9], .closed⟩, none, true, none⟩
        (payload true ⟨1, #[⟨"s", "FixedString(3)", .fixedStrings 3 #[[65]]⟩]⟩),
        ⟨1, #[⟨"n", "UInt8", .scalars .uint8 #[7]⟩]⟩) =
      .ok () (⟨⟨[9], .closed⟩, none, true, none⟩,
        ⟨1, #[⟨"s", "FixedString(3)", .fixedStrings 3 #[[65, 0, 0]]⟩]⟩) := by
  have hpush : Block.empty.push ⟨"s", "FixedString(3)", .fixedStrings 3 #[[65]]⟩ =
      .ok ⟨1, #[⟨"s", "FixedString(3)", .fixedStrings 3 #[[65]]⟩]⟩ := by
    have hfault : Block.empty.fault? ⟨"s", "FixedString(3)", .fixedStrings 3 #[[65]]⟩ = none := by
      decide +kernel
    rw [push, hfault]
    rfl
  have hlimits : WithinLimits ⟨1, #[⟨"s", "FixedString(3)", .fixedStrings 3 #[[65]]⟩]⟩ := by
    refine ⟨by decide, by decide, ?_⟩
    intro c hc
    obtain rfl : c = ⟨"s", "FixedString(3)", .fixedStrings 3 #[[65]]⟩ := by simpa using hc
    exact ⟨by decide +kernel, by decide +kernel, by simp [ColumnData.WithinLimits, maxTextSize]⟩
  have hout : (⟨⟨[9], .closed⟩, none, true, none⟩ : Reader Cursor).region = none := rfl
  obtain ⟨hread, -⟩ := readInto_payload (.push .empty hpush) hlimits hout
    ⟨1, #[⟨"n", "UInt8", .scalars .uint8 #[7]⟩]⟩
  have hpadded : padded ⟨1, #[⟨"s", "FixedString(3)", .fixedStrings 3 #[[65]]⟩]⟩ =
      ⟨1, #[⟨"s", "FixedString(3)", .fixedStrings 3 #[[65, 0, 0]]⟩]⟩ := by
    simp [padded, Column.padded, ColumnData.padded]
  rw [hpadded] at hread
  exact ⟨hpush, hread⟩

end Block

end ColumnWire

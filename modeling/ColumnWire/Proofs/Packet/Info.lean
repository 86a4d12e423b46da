import ColumnWire.Packet.Info
import ColumnWire.Proofs.Stream.Value

/-!
# Metadata is read as it was written

The packets that come between the blocks of a result are read back as they are; only the texts
of a description of columns can be too long for that. A hello comes back with the fields that its
revision has (`ServerInfo.gated`), whatever it held: a text that was missing is there and empty, and
what its revision does not have is gone. All four stop right behind what was written
(`metadata_kept`).
-/
namespace ColumnWire

open Decoder

theorem Progress.reads_read (p : Progress) : Reads read p.encode p := by
  simp only [encode, List.append_assoc]
  refine (reads_varint p.rows).bind ?_
  refine (reads_varint p.bytes).bind ?_
  refine (reads_varint p.totalRows).bind ?_
  refine (reads_varint p.writtenRows).bind ?_
  exact (reads_varint p.writtenBytes).bind_last (.pure p)

theorem ProfileInfo.reads_read (p : ProfileInfo) : Reads read p.encode p := by
  simp only [encode, List.append_assoc]
  refine (reads_varint p.rows).bind ?_
  refine (reads_varint p.blocks).bind ?_
  refine (reads_varint p.bytes).bind ?_
  refine (reads_bool p.appliedLimit).bind ?_
  refine (reads_varint p.rowsBeforeLimit).bind ?_
  exact (reads_bool p.calculatedRowsBeforeLimit).bind_last (.pure p)

/-- Neither text is too long to be read. -/
structure TableColumns.WithinLimits (t : TableColumns) : Prop where
  table_le : (Utf8.encode t.table).length ≤ maxTextSize
  description_le : (Utf8.encode t.description).length ≤ maxTextSize

theorem TableColumns.reads_read {t : TableColumns} (h : t.WithinLimits) : Reads read t.encode t :=
  (reads_text h.table_le).bind ((reads_text h.description_le).bind_last (.pure t))

namespace ServerInfo

/-- No text is too long to be read. -/
structure WithinLimits (s : ServerInfo) : Prop where
  name_le : (Utf8.encode s.name).length ≤ maxTextSize
  timezone_le : ∀ t ∈ s.timezone, (Utf8.encode t).length ≤ maxTextSize
  displayName_le : ∀ t ∈ s.displayName, (Utf8.encode t).length ≤ maxTextSize

/-- A value that is there from a revision on. -/
def since {α : Type} (first revision : UInt64) (a : α) : Option α :=
  if first ≤ revision then some a else none

/-- The server as it comes back: just the fields that its revision has. -/
def gated (s : ServerInfo) : ServerInfo :=
  { s with
    timezone := since 54058 s.revision (s.timezone.getD "")
    displayName := since 54372 s.revision (s.displayName.getD "")
    patch := (since 54401 s.revision s.patch).getD 0 }

/-- Nothing is written for a field that the revision does not have, and nothing is read. -/
theorem reads_readFrom {α : Type} {field : Decoder Cursor α} {bs : Bytes} {a : α}
    (h : Reads field bs a) (first revision : UInt64) :
    Reads (readFrom first revision field) (encodeFrom first revision bs)
      (since first revision a) := by
  unfold readFrom encodeFrom since
  split
  · exact h.bind_last (.pure _)
  · exact .pure none

/-- A missing text is written as the empty one. -/
theorem reads_optionalText {text : Option String}
    (h : ∀ t ∈ text, (Utf8.encode t).length ≤ maxTextSize) :
    Reads Decoder.text (Encode.text (text.getD "")) (text.getD "") := by
  cases text with
  | none => exact reads_text (by decide)
  | some t => exact reads_text (h t rfl)

theorem reads_read {s : ServerInfo} (h : s.WithinLimits) : Reads read s.encode s.gated := by
  simp only [encode, List.append_assoc]
  refine (reads_text h.name_le).bind ?_
  refine (reads_varint s.major).bind ?_
  refine (reads_varint s.minor).bind ?_
  refine (reads_varint s.revision).bind ?_
  refine (reads_readFrom (reads_optionalText h.timezone_le) _ _).bind ?_
  refine (reads_readFrom (reads_optionalText h.displayName_le) _ _).bind ?_
  exact (reads_readFrom (reads_varint s.patch) _ _).bind_last (.pure s.gated)

end ServerInfo

/-- **Metadata is kept**, and the reader stops right behind it, whatever follows. A hello has its
time zone from revision 54058 on, its display name from 54372 on and its patch number from 54401 on;
a missing text comes back empty, and below these revisions there is no text and the number is
zero. -/
theorem metadata_kept {stop : Reader Cursor} (hout : stop.region = none) :
    (∀ s : ServerInfo, s.WithinLimits →
      ServerInfo.read (stop.before s.encode) = .ok
        { s with
          timezone := if 54058 ≤ s.revision then some (s.timezone.getD "") else none
          displayName := if 54372 ≤ s.revision then some (s.displayName.getD "") else none
          patch := if 54401 ≤ s.revision then s.patch else 0 } stop) ∧
    (∀ p : Progress, Progress.read (stop.before p.encode) = .ok p stop) ∧
    (∀ p : ProfileInfo, ProfileInfo.read (stop.before p.encode) = .ok p stop) ∧
    ∀ t : TableColumns, t.WithinLimits → TableColumns.read (stop.before t.encode) = .ok t stop := by
  refine ⟨fun s hs => ?_, fun p => ?_, fun p => ?_, fun t ht => ?_⟩
  · have hpatch : (ServerInfo.since 54401 s.revision s.patch).getD 0 =
        if 54401 ≤ s.revision then s.patch else 0 := by
      unfold ServerInfo.since
      split <;> rfl
    rw [← hpatch]
    exact (ServerInfo.reads_read hs).eq_ok_before hout
  · exact p.reads_read.eq_ok_before hout
  · exact p.reads_read.eq_ok_before hout
  · exact (TableColumns.reads_read ht).eq_ok_before hout

/-- A hello between two of the revisions, with a patch number that its revision does not have, in
front of another packet; and a description of columns. -/
theorem metadata_kept_between :
    let stop : Reader Cursor := { source := { bytes := [4, 5] } }
    let s : ServerInfo := ⟨"db", 20, 1, 54400, none, some "node", 7⟩
    ServerInfo.read (stop.before s.encode) =
        .ok ⟨"db", 20, 1, 54400, some "", some "node", 0⟩ stop ∧
      TableColumns.read (stop.before (TableColumns.encode ⟨"t", "a Int8"⟩)) =
        .ok ⟨"t", "a Int8"⟩ stop := by
  intro stop s
  have hs : s.WithinLimits := by
    refine ⟨by decide +kernel, ?_, ?_⟩
    · rintro t ⟨⟩
    · rintro t ⟨⟩
      decide +kernel
  have ht : TableColumns.WithinLimits ⟨"t", "a Int8"⟩ := ⟨by decide +kernel, by decide +kernel⟩
  have hout : stop.region = none := rfl
  obtain ⟨hserver, -, -, hcolumns⟩ := metadata_kept hout
  exact ⟨hserver s hs, hcolumns _ ht⟩

end ColumnWire

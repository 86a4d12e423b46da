import ColumnWire.Packet
import ColumnWire.Stream.Primitive

/-!
# What servers tell about themselves and their work

The body of a server's hello, and of the packets that come between the blocks of a
result. Some fields of the hello are there only from a revision on.
-/
namespace ColumnWire

/-- Who the server is. -/
structure ServerInfo where
  name : String := ""
  major : UInt64 := 0
  minor : UInt64 := 0
  revision : UInt64 := 0
  timezone : Option String := none
  displayName : Option String := none
  patch : UInt64 := 0
deriving Repr, DecidableEq, Inhabited

/-- How far a query has got. -/
structure Progress where
  rows : UInt64 := 0
  bytes : UInt64 := 0
  totalRows : UInt64 := 0
  writtenRows : UInt64 := 0
  writtenBytes : UInt64 := 0
deriving Repr, DecidableEq, Inhabited

/-- What a query has read. -/
structure ProfileInfo where
  rows : UInt64 := 0
  blocks : UInt64 := 0
  bytes : UInt64 := 0
  appliedLimit : Bool := false
  rowsBeforeLimit : UInt64 := 0
  calculatedRowsBeforeLimit : Bool := false
deriving Repr, DecidableEq, Inhabited

/-- The columns of an external table, described in words. -/
structure TableColumns where
  table : String := ""
  description : String := ""
deriving Repr, DecidableEq, Inhabited

variable {σ : Type} [Source σ]

namespace ServerInfo

/-- The version in numbers. -/
def version (s : ServerInfo) : String := s!"{s.major}.{s.minor}.{s.patch}"

/-- A field that is there from a revision on. -/
def encodeFrom (first revision : UInt64) (field : Bytes) : Bytes :=
  if first ≤ revision then field else []

def encode (s : ServerInfo) : Bytes :=
  Encode.text s.name ++ Encode.varint s.major ++ Encode.varint s.minor ++ Encode.varint s.revision ++
    encodeFrom Protocol.timezoneRevision s.revision (Encode.text (s.timezone.getD "")) ++
    encodeFrom Protocol.displayNameRevision s.revision (Encode.text (s.displayName.getD "")) ++
    encodeFrom Protocol.patchRevision s.revision (Encode.varint s.patch)

/-- Read a field that is there from a revision on. -/
def readFrom {α : Type} (first revision : UInt64) (field : Decoder σ α) : Decoder σ (Option α) :=
  if first ≤ revision then some <$> field else pure none

def read : Decoder σ ServerInfo := do
  let name ← Decoder.text
  let major ← Decoder.varint
  let minor ← Decoder.varint
  let revision ← Decoder.varint
  let timezone ← readFrom Protocol.timezoneRevision revision Decoder.text
  let displayName ← readFrom Protocol.displayNameRevision revision Decoder.text
  let patch ← readFrom Protocol.patchRevision revision Decoder.varint
  return { name, major, minor, revision, timezone, displayName, patch := patch.getD 0 }

theorem spends_readFrom {α : Type} {first revision : UInt64} {field : Decoder σ α}
    (hfield : Spends Reader.left field 0) : Spends Reader.left (readFrom first revision field) 0 :=
  .ofIte (hfield.bindLeft fun _ => .ofPure _) (.ofPure _)

theorem spends_read : Spends Reader.left (read (σ := σ)) 0 := by
  have htext := (Decoder.spends_text (σ := σ)).weaken (Nat.zero_le _)
  have hvarint := (Decoder.spends_varint (σ := σ)).weaken (Nat.zero_le _)
  refine htext.bindLeft fun _ => ?_
  refine hvarint.bindLeft fun _ => ?_
  refine hvarint.bindLeft fun _ => ?_
  refine hvarint.bindLeft fun _ => ?_
  refine (spends_readFrom htext).bindLeft fun _ => ?_
  refine (spends_readFrom htext).bindLeft fun _ => ?_
  exact (spends_readFrom hvarint).bindLeft fun _ => .ofPure _

end ServerInfo

namespace Progress

def encode (p : Progress) : Bytes :=
  Encode.varint p.rows ++ Encode.varint p.bytes ++ Encode.varint p.totalRows ++
    Encode.varint p.writtenRows ++ Encode.varint p.writtenBytes

def read : Decoder σ Progress :=
  return ⟨← Decoder.varint, ← Decoder.varint, ← Decoder.varint, ← Decoder.varint, ← Decoder.varint⟩

theorem spends_read : Spends Reader.left (read (σ := σ)) 0 :=
  (Decoder.spends_varint.weaken (Nat.zero_le _)).bindLeft fun _ =>
    (Decoder.spends_varint.weaken (Nat.zero_le _)).bindLeft fun _ =>
      (Decoder.spends_varint.weaken (Nat.zero_le _)).bindLeft fun _ =>
        (Decoder.spends_varint.weaken (Nat.zero_le _)).bindLeft fun _ =>
          (Decoder.spends_varint.weaken (Nat.zero_le _)).bindLeft fun _ => Spends.ofPure _

end Progress

namespace ProfileInfo

def encode (p : ProfileInfo) : Bytes :=
  Encode.varint p.rows ++ Encode.varint p.blocks ++ Encode.varint p.bytes ++
    Encode.bool p.appliedLimit ++ Encode.varint p.rowsBeforeLimit ++
    Encode.bool p.calculatedRowsBeforeLimit

def read : Decoder σ ProfileInfo :=
  return ⟨← Decoder.varint, ← Decoder.varint, ← Decoder.varint, ← Decoder.bool, ← Decoder.varint,
    ← Decoder.bool⟩

theorem spends_read : Spends Reader.left (read (σ := σ)) 0 :=
  (Decoder.spends_varint.weaken (Nat.zero_le _)).bindLeft fun _ =>
    (Decoder.spends_varint.weaken (Nat.zero_le _)).bindLeft fun _ =>
      (Decoder.spends_varint.weaken (Nat.zero_le _)).bindLeft fun _ =>
        (Decoder.spends_bool.weaken (Nat.zero_le _)).bindLeft fun _ =>
          (Decoder.spends_varint.weaken (Nat.zero_le _)).bindLeft fun _ =>
            (Decoder.spends_bool.weaken (Nat.zero_le _)).bindLeft fun _ => Spends.ofPure _

end ProfileInfo

namespace TableColumns

def encode (t : TableColumns) : Bytes := Encode.text t.table ++ Encode.text t.description

def read : Decoder σ TableColumns := return ⟨← Decoder.text, ← Decoder.text⟩

theorem spends_read : Spends Reader.left (read (σ := σ)) 0 :=
  (Decoder.spends_text.weaken (Nat.zero_le _)).bindLeft fun _ =>
    (Decoder.spends_text.weaken (Nat.zero_le _)).bindLeft fun _ => Spends.ofPure _

end TableColumns

end ColumnWire

import ColumnWire.Error
import ColumnWire.Frame.CityHash
import ColumnWire.Frame.Lz4

/-!
# Compression frames

A frame is a checksum of sixteen bytes, then a method byte and two sizes of four
bytes each, then the payload. The checksum covers all that follows it, and the first
size counts the nine bytes before the payload too. Long content is cut into several
frames. How a chunk is compressed is left to a parameter of what writes frames (`encodeBy`); the
compressor that is used is `Lz4.compress`.
-/
namespace ColumnWire.Frame

/-- Bytes of the checksum. -/
def checksumLength : Nat := 16

/-- Bytes between the checksum and the payload. -/
def headerLength : Nat := 9

/-- Bytes before the payload. -/
def leadLength : Nat := checksumLength + headerLength

/-- The payload is the content. -/
def stored : UInt8 := 0x02

/-- The payload is an LZ4 block. -/
def lz4 : UInt8 := 0x82

/-- Most content that one written frame holds. -/
def maxChunk : Nat := 1048576

/-- Most bytes that a frame may announce, compressed or not. -/
def maxSize : Nat := 1073741824

/-- The hash of a byte string, the high half first. -/
def checksum (bs : Bytes) : Bytes :=
  let h := CityHash.hash ⟨bs.toArray⟩
  LittleEndian.encode 8 h.high.toNat ++ LittleEndian.encode 8 h.low.toNat

/-- What stands before the payload. -/
structure Header where
  checksum : Bytes
  method : UInt8
  /-- Bytes from the method byte to the end of the payload. -/
  compressedSize : Nat
  /-- Bytes of content. -/
  contentSize : Nat
deriving Repr, DecidableEq, Inhabited

namespace Header

/-- Read a header. Sizes that no frame can have are refused. -/
def parse (bs : Bytes) : Except FrameFault Header :=
  let rest := bs.drop checksumLength
  let compressed := LittleEndian.decode ((rest.drop 1).take 4)
  let content := LittleEndian.decode ((rest.drop 5).take 4)
  if compressed < headerLength then .error (.smallerThanHeader compressed)
  else if maxSize < compressed ∨ maxSize < content then .error (.tooLarge compressed content)
  else .ok ⟨bs.take checksumLength, rest.headD 0, compressed, content⟩

/-- Bytes of the payload. -/
def payloadLength (h : Header) : Nat := h.compressedSize - headerLength

theorem contentSize_le {bs : Bytes} {h : Header} (hp : parse bs = .ok h) :
    h.contentSize ≤ maxSize := by
  unfold parse at hp
  simp only at hp
  split at hp
  · simp at hp
  · split at hp
    · simp at hp
    · simp only [Except.ok.injEq] at hp
      subst hp
      simp only
      omega

end Header

/-- The content that a payload stands for under a method. -/
def unpack (method : UInt8) (contentSize : Nat) (payload : Bytes) : Except FrameFault Bytes :=
  if method = lz4 then
    match Lz4.expand contentSize payload with
    | some content => .ok content
    | none => .error .malformedBlock
  else if method = stored then .ok payload
  else .error (.unknownMethod method)

/-- Check a frame against its header and give its content. `body` is all that follows the
checksum. -/
def decode (h : Header) (body : Bytes) : Except FrameFault Bytes :=
  if body.length ≠ h.compressedSize then .error (.wrongLength body.length h.compressedSize)
  else if checksum body ≠ h.checksum then .error .checksumMismatch
  else
    match unpack h.method h.contentSize (body.drop headerLength) with
    | .error e => .error e
    | .ok content =>
      if content.length ≠ h.contentSize then .error (.wrongContentLength content.length h.contentSize)
      else .ok content

theorem length_of_decode {h : Header} {body content : Bytes} (hd : decode h body = .ok content) :
    content.length = h.contentSize := by
  unfold decode at hd
  split at hd
  · simp at hd
  · split at hd
    · simp at hd
    · split at hd
      · simp at hd
      · split at hd
        · simp at hd
        · simp_all

/-- All of a frame that follows its checksum. -/
def body (method : UInt8) (contentSize : Nat) (payload : Bytes) : Bytes :=
  method :: (LittleEndian.encode 4 (payload.length + headerLength) ++
    LittleEndian.encode 4 contentSize ++ payload)

/-- A frame with the checksum that belongs to it. -/
def assemble (method : UInt8) (contentSize : Nat) (payload : Bytes) : Bytes :=
  checksum (body method contentSize payload) ++ body method contentSize payload

section
variable (compress : Bytes → Bytes)

/-- The frame of a chunk that is compressed so. -/
def encodeBy (chunk : Bytes) : Bytes := assemble lz4 chunk.length (compress chunk)

/-- The frames that hold a byte string. An empty one takes no frame. -/
def encodeAllBy (bs : Bytes) : Bytes := (bs.chunks maxChunk).flatMap (encodeBy compress)

/-- A byte string as it goes onto the wire: in frames under compression, else as it is. -/
def packBy (compression : Bool) (bs : Bytes) : Bytes :=
  if compression then encodeAllBy compress bs else bs

@[simp] theorem packBy_false (bs : Bytes) : packBy compress false bs = bs := rfl

@[simp] theorem packBy_true (bs : Bytes) : packBy compress true bs = encodeAllBy compress bs := rfl

end

/-- The frames that are written for a byte string. -/
def encodeAll (bs : Bytes) : Bytes := encodeAllBy Lz4.compress bs

end ColumnWire.Frame

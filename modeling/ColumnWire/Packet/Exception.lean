import ColumnWire.Exception
import ColumnWire.Packet
import ColumnWire.Stream.Primitive

/-!
# Exceptions on the wire

The records of a chain follow each other, the outermost first; behind each stands
whether there is one more. A reader accepts chains up to a limit and tidies their
messages.
-/
namespace ColumnWire.ServerException

/-- A record, and whether another one follows. -/
def encodeRecord (r : ExceptionRecord) (more : Bool) : Bytes :=
  Encode.int32 r.code ++ Encode.text r.name ++ Encode.text r.message ++ Encode.text r.stackTrace ++
    Encode.bool more

/-- Records up to the end of the chain. -/
def encodeFrom (r : ExceptionRecord) : (causes : List ExceptionRecord) → Bytes
  | [] => encodeRecord r false
  | c :: cs => encodeRecord r true ++ encodeFrom c cs

/-- A chain. -/
def encode (e : ServerException) : Bytes := encodeFrom e.outer e.causes

/-- The failure `r` with the cause `e`. -/
def under (e : ServerException) (r : ExceptionRecord) : ServerException := ⟨r, e.chain⟩

variable {σ : Type} [Source σ]

/-- Read a record, and whether another one follows. -/
def readRecord : Decoder σ (ExceptionRecord × Bool) := do
  let code ← Decoder.int32
  let name ← Decoder.text
  let message ← Decoder.text
  let stackTrace ← Decoder.text
  let more ← Decoder.bool
  return (⟨code, name, ExceptionRecord.tidy name message, stackTrace⟩, more)

/-- Read records up to the end of the chain, at most `room` of them; `outer` holds those before,
the last one first. -/
def readFrom (limit : Nat) : (room : Nat) → (outer : List ExceptionRecord) → Decoder σ ServerException
  | 0, _ => throw (.exceptionTooDeep limit)
  | room + 1, outer => do
    let (r, more) ← readRecord
    if more then readFrom limit room (r :: outer)
    else return outer.foldl under ⟨r, []⟩

/-- Read a chain of at most `limit` records. -/
def read (limit : Nat) : Decoder σ ServerException := readFrom limit limit []

theorem spends_readRecord : Spends Reader.left (readRecord (σ := σ)) 1 :=
  (Decoder.spends_int32.weaken (by decide)).bindLeft fun _ =>
    (Decoder.spends_text.weaken (Nat.zero_le _)).bindLeft fun _ =>
      (Decoder.spends_text.weaken (Nat.zero_le _)).bindLeft fun _ =>
        (Decoder.spends_text.weaken (Nat.zero_le _)).bindLeft fun _ =>
          (Decoder.spends_bool.weaken (Nat.zero_le _)).bindLeft fun _ => Spends.ofPure _

theorem spends_readFrom (limit room : Nat) (outer : List ExceptionRecord) :
    Spends Reader.left (readFrom (σ := σ) limit room outer) 0 := by
  induction room generalizing outer with
  | zero => exact Spends.ofThrow _
  | succ k ih =>
    refine (spends_readRecord.weaken (Nat.zero_le _)).bindLeft fun (r, more) => ?_
    exact Spends.ofIte (ih _) (Spends.ofPure _)

theorem spends_read (limit : Nat) : Spends Reader.left (read (σ := σ) limit) 0 :=
  spends_readFrom _ _ _

end ColumnWire.ServerException

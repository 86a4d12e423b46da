import ColumnWire.Packet.Exception
import ColumnWire.Proofs.Stream.Value

/-!
# Exceptions are read as they were written

A chain within the limit comes back with its messages tidied and nothing else changed
(`reads_read`). A chain that is longer is given up after as many records as the limit allows,
and the records behind them stay unread (`read_tooDeep`).
-/
namespace ColumnWire

/-- The record as it comes back: its message is tidied. -/
def ExceptionRecord.tidied (r : ExceptionRecord) : ExceptionRecord :=
  { r with message := tidy r.name r.message }

/-- No text of the record is too long to be read. -/
structure ExceptionRecord.WithinLimits (r : ExceptionRecord) : Prop where
  name_le : (Utf8.encode r.name).length ≤ maxTextSize
  message_le : (Utf8.encode r.message).length ≤ maxTextSize
  stackTrace_le : (Utf8.encode r.stackTrace).length ≤ maxTextSize

namespace ServerException

open Decoder

/-- The exception as it comes back. -/
def tidied (e : ServerException) : ServerException := ⟨e.outer.tidied, e.causes.map (·.tidied)⟩

/-- No text of the chain is too long to be read. -/
def WithinLimits (e : ServerException) : Prop := ∀ r ∈ e.chain, r.WithinLimits

/-- The bytes of a chain that may have no records left. -/
def encodeChain : List ExceptionRecord → Bytes
  | [] => []
  | r :: causes => encodeFrom r causes

@[simp] theorem encodeChain_chain (e : ServerException) : encodeChain e.chain = e.encode := rfl

theorem reads_readRecord {r : ExceptionRecord} (h : r.WithinLimits) (more : Bool) :
    Reads readRecord (encodeRecord r more) (r.tidied, more) := by
  simp only [encodeRecord, List.append_assoc]
  refine (reads_int32 r.code).bind ?_
  refine (reads_text h.name_le).bind ?_
  refine (reads_text h.message_le).bind ?_
  refine (reads_text h.stackTrace_le).bind ?_
  exact (reads_bool more).bind_last (.pure _)

/-- The records that were read before go around the rest of the chain, the last one first. -/
theorem reads_readFrom (limit : Nat) {room : Nat} {r : ExceptionRecord} {causes : List ExceptionRecord}
    (hroom : causes.length < room) (hlimits : ∀ c ∈ r :: causes, c.WithinLimits)
    (outer : List ExceptionRecord) :
    Reads (readFrom limit room outer) (encodeFrom r causes)
      (outer.foldl under ⟨r.tidied, causes.map (·.tidied)⟩) := by
  induction causes generalizing r room outer with
  | nil =>
    obtain ⟨room, rfl⟩ : ∃ k, room = k + 1 := ⟨room - 1, by simp at hroom; omega⟩
    refine (reads_readRecord (hlimits r (List.mem_cons_self ..)) false).bind_last ?_
    exact .ofElse Bool.false_ne_true (.pure _)
  | cons c causes ih =>
    obtain ⟨room, rfl⟩ : ∃ k, room = k + 1 := ⟨room - 1, by simp at hroom; omega⟩
    have hroom : causes.length < room := by simpa using hroom
    have hrest := ih hroom (fun d hd => hlimits d (List.mem_cons_of_mem _ hd)) (r.tidied :: outer)
    exact (reads_readRecord (hlimits r (List.mem_cons_self ..)) true).bind (.ofIf rfl hrest)

/-- **A chain within the limit is read back as it was**, with its messages tidied. -/
theorem reads_read {limit : Nat} {e : ServerException} (hdepth : e.depth ≤ limit)
    (hlimits : e.WithinLimits) : Reads (read limit) e.encode e.tidied := by
  have hroom : e.causes.length < limit := hdepth
  exact reads_readFrom limit hroom hlimits []

/-- Records are read while there is room for them. -/
theorem readFrom_tooDeep (limit : Nat) {room : Nat} {records : List ExceptionRecord}
    (hroom : room < records.length) (hlimits : ∀ r ∈ records, r.WithinLimits) {stop : Reader Cursor}
    (hout : stop.region = none) (outer : List ExceptionRecord) :
    readFrom limit room outer (stop.before (encodeChain records)) =
      .error (.exceptionTooDeep limit) (stop.before (encodeChain (records.drop room))) := by
  induction room generalizing records outer with
  | zero => rfl
  | succ room ih =>
    obtain ⟨r, c, causes, rfl⟩ : ∃ r c causes, records = r :: c :: causes := by
      match records, hroom with
      | r :: c :: causes, _ => exact ⟨r, c, causes, rfl⟩
    have hroom : room < (c :: causes).length := by simpa using hroom
    have hrest := ih hroom (fun d hd => hlimits d (List.mem_cons_of_mem _ hd)) (r.tidied :: outer)
    have hrecord : readRecord (stop.before (encodeChain (r :: c :: causes))) =
        .ok (r.tidied, true) (stop.before (encodeChain (c :: causes))) := by
      rw [encodeChain, encodeFrom, ← Reader.before_before]
      exact (reads_readRecord (hlimits r (List.mem_cons_self ..)) true).eq_ok_before hout
    refine bind_eq_error.mpr (.inr ⟨(r.tidied, true), _, hrecord, ?_⟩)
    exact hrest

/-- **A chain that is too long is given up** once as many records have been read as the limit allows. -/
theorem read_tooDeep {limit : Nat} {e : ServerException} (hdepth : limit < e.depth)
    (hlimits : e.WithinLimits) {stop : Reader Cursor} (hout : stop.region = none) :
    read limit (stop.before e.encode) =
      .error (.exceptionTooDeep limit) (stop.before (encodeChain (e.chain.drop limit))) :=
  readFrom_tooDeep limit hdepth hlimits hout []

end ServerException

end ColumnWire

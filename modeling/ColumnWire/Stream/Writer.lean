import ColumnWire.Frame

/-!
# Writing to a stream

A writer gathers a whole request and hands it to the transport at once. A request that
could not be handed over stays in the writer.
-/
namespace ColumnWire

/-- What has been written and not yet handed over. -/
structure Writer where
  compression : Bool := false
  bytes : Bytes := []
deriving Repr, DecidableEq, Inhabited

/-- How a transport receives bytes. -/
inductive Sink where
  /-- It takes them all. -/
  | ready
  /-- It never takes any. -/
  | silent
  /-- Every write fails. -/
  | broken (fault : IoFault)
deriving Repr, DecidableEq, Inhabited

namespace Writer

/-- Write bytes. -/
def append (w : Writer) (bs : Bytes) : Writer := { w with bytes := w.bytes ++ bs }

/-- Let `f` write; what it wrote goes into frames if compression is on. -/
def withCompressionBy (compress : Bytes → Bytes) (f : Writer → Writer) (w : Writer) : Writer :=
  let after := f w
  { after with
    bytes := after.bytes.take w.bytes.length ++
      Frame.packBy compress w.compression (after.bytes.drop w.bytes.length) }

/-- Let `f` write, and compress what it wrote with the compressor that is used. -/
def withCompression (f : Writer → Writer) (w : Writer) : Writer := w.withCompressionBy Lz4.compress f

/-- Drop what has been written. -/
def clear (w : Writer) : Writer := { w with bytes := [] }

/-- Hand everything over to a transport that is given up at the limit. Nothing at all can always
be handed over. -/
def flush (w : Writer) (sink : Sink) (limit : Option Duration) : Except Error Bytes × Writer :=
  match w.bytes, sink with
  | [], _ => (.ok [], w)
  | bs, .ready => (.ok bs, w.clear)
  | _, .silent => (.error (.timeout (limit.getD ⟨0⟩)), w)
  | _, .broken fault => (.error (.io fault), w)

/-- A writer that appends leaves what was written before, and packs what it adds. -/
theorem withCompressionBy_append (compress : Bytes → Bytes) (w : Writer) (bs : Bytes) :
    w.withCompressionBy compress (·.append bs) = w.append (Frame.packBy compress w.compression bs) := by
  simp [withCompressionBy, append]

end Writer

end ColumnWire

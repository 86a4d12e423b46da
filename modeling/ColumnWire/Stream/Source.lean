import ColumnWire.Bytes
import ColumnWire.Error

/-!
# Where bytes come from

A source gives out bytes in order until it ends. `Cursor` is the plain one: all the
bytes that will ever arrive. `Buffered` receives them in pieces and keeps a window
over a fixed store, refilled in place.
-/
namespace ColumnWire

/-- How a stream behaves after its last byte. -/
inductive Ending where
  /-- The peer closed it. -/
  | closed
  /-- Nothing more arrives. -/
  | silent
  /-- Every further read fails. -/
  | broken (fault : IoFault)
deriving Repr, DecidableEq, Inhabited

/-- The failure of a read past the last byte. A silent stream is given up at the limit;
a wait without a limit has no outcome, and the limit zero stands for it. -/
def Ending.error (limit : Option Duration) : Ending → Error
  | .closed => .io .closed
  | .silent => .timeout (limit.getD ⟨0⟩)
  | .broken fault => .io fault

/-- Something that gives out bytes. -/
class Source (σ : Type) where
  /-- Take exactly so many bytes, or learn how the stream ended; then what was left is gone. -/
  take : Nat → σ → Except Ending Bytes × σ
  /-- A take that succeeds gives out as many bytes as it was asked for. -/
  length_take : ∀ {n : Nat} {s s' : σ} {bs : Bytes}, take n s = (.ok bs, s') → bs.length = n
  /-- A bound on the bytes still to come. -/
  size : σ → Nat
  /-- A take that succeeds uses up what it gives out. -/
  size_take_ok : ∀ {n : Nat} {s s' : σ} {bs : Bytes}, take n s = (.ok bs, s') → size s' + n ≤ size s
  /-- A take that fails gives nothing back. -/
  size_take_error : ∀ {n : Nat} {s s' : σ} {e : Ending}, take n s = (.error e, s') → size s' ≤ size s

/-- All the bytes that will ever arrive. -/
structure Cursor where
  bytes : Bytes
  ending : Ending := .closed
deriving Repr, DecidableEq, Inhabited

namespace Cursor

def take (n : Nat) (c : Cursor) : Except Ending Bytes × Cursor :=
  let (now, later) := c.bytes.splitAt n
  if now.length = n then (.ok now, { c with bytes := later })
  else (.error c.ending, { c with bytes := [] })

theorem take_append (bs rest : Bytes) (ending : Ending) :
    take bs.length ⟨bs ++ rest, ending⟩ = (.ok bs, ⟨rest, ending⟩) := by
  simp [take]

theorem take_short {n : Nat} {bs : Bytes} (ending : Ending) (h : bs.length < n) :
    take n ⟨bs, ending⟩ = (.error ending, ⟨[], ending⟩) := by
  have : min n bs.length ≠ n := by omega
  simp [take, this]

theorem length_take {n : Nat} {c c' : Cursor} {bs : Bytes} (h : take n c = (.ok bs, c')) :
    bs.length = n := by
  simp only [take, List.splitAt_eq] at h
  split at h
  · next hlen =>
    cases h
    exact hlen
  · cases h

instance : Source Cursor where
  take := take
  length_take := length_take
  size c := c.bytes.length
  size_take_ok := by
    intro n s s' bs h
    simp only [take, List.splitAt_eq] at h
    split at h <;> simp_all
    obtain ⟨-, rfl⟩ := h
    simp
    omega
  size_take_error := by
    intro n s s' e h
    simp only [take, List.splitAt_eq] at h
    split at h <;> simp_all
    obtain ⟨-, rfl⟩ := h
    simp

end Cursor

/-- Bytes that arrive in pieces. The bytes from `start` to `stop` in `store` have arrived
and are unread; the rest of the store is left over from before. -/
structure Buffered where
  store : Array UInt8
  start : Nat
  stop : Nat
  arriving : List Bytes
  ending : Ending := .closed
  /-- What has arrived lies within the store. -/
  stop_le : stop ≤ store.size
deriving Repr, DecidableEq

namespace Buffered

instance : Inhabited Buffered := ⟨⟨#[], 0, 0, [], .closed, Nat.le_refl 0⟩⟩

/-- Most bytes that one arrival puts into the store. -/
def capacity : Nat := 65536

/-- A stream whose bytes arrive in the given pieces, each cut so that its parts fit into the store. -/
def ofPieces (pieces : List Bytes) (ending : Ending) : Buffered :=
  ⟨Array.replicate capacity 0, 0, 0, pieces.flatMap (Bytes.chunks capacity), ending, Nat.zero_le _⟩

/-- The unread bytes that have arrived. -/
def window (b : Buffered) : Bytes := (b.store.extract b.start b.stop).toList

/-- Put an arrival at the front of the store, over what was there. -/
def refill (b : Buffered) (piece : Bytes) (later : List Bytes) : Buffered :=
  { b with
    store := piece.toArray ++ b.store.extract piece.length b.store.size
    start := 0, stop := piece.length, arriving := later
    stop_le := by simp }

/-- The stream once `k` bytes of the window have been read. -/
def skip (k : Nat) (b : Buffered) : Buffered := { b with start := b.start + k }

/-- Take bytes from the window first and then from the arrivals; `taken` holds the parts
taken so far, the last one first. -/
def takeFrom (n : Nat) (taken : List Bytes) (b : Buffered) : Except Ending Bytes × Buffered :=
  let k := min n (b.stop - b.start)
  let part := (b.store.extract b.start (b.start + k)).toList
  if k = n then (.ok (part :: taken).reverse.flatten, b.skip k)
  else
    match _h : b.arriving with
    | [] => (.error b.ending, b.skip k)
    | piece :: later => takeFrom (n - k) (part :: taken) ((b.skip k).refill piece later)
termination_by b.arriving.length
decreasing_by simp_all [refill]

def take (n : Nat) (b : Buffered) : Except Ending Bytes × Buffered := takeFrom n [] b

/-- The bytes of the window and of all arrivals together. -/
def size (b : Buffered) : Nat := (b.stop - b.start) + b.arriving.flatten.length

theorem size_skip (k : Nat) (b : Buffered) (h : k ≤ b.stop - b.start) :
    (b.skip k).size + k = b.size := by
  simp only [size, skip]
  omega

theorem size_refill {b : Buffered} {piece : Bytes} {later : List Bytes}
    (h : b.arriving = piece :: later) : (b.refill piece later).size ≤ b.size := by
  simp only [size, refill, h, List.flatten_cons, List.length_append]
  omega

/-- Each part has the length it was cut to, because the window lies within the store. -/
theorem length_takeFrom {n : Nat} {taken : List Bytes} {b b' : Buffered} {bs : Bytes}
    (h : takeFrom n taken b = (.ok bs, b')) : bs.length = n + taken.flatten.length := by
  fun_induction takeFrom n taken b with
  | case1 n taken b k part hk =>
    have hwindow := b.stop_le
    have hpart : part.length = n := by
      simp only [part, Array.length_toList, Array.size_extract]
      omega
    obtain ⟨hbs, -⟩ := Prod.mk.inj h
    rw [← Except.ok.inj hbs, List.length_flatten, List.length_flatten, List.map_reverse,
      List.sum_reverse, List.map_cons, List.sum_cons, hpart]
  | case2 => simp at h
  | case3 n taken b k part hk piece later harr ih =>
    have hwindow := b.stop_le
    have hpart : part.length = k := by
      simp only [part, Array.length_toList, Array.size_extract]
      omega
    have hrest := ih h
    rw [List.flatten_cons, List.length_append, hpart] at hrest
    omega

theorem size_takeFrom_ok {n : Nat} {taken : List Bytes} {b b' : Buffered} {bs : Bytes}
    (h : takeFrom n taken b = (.ok bs, b')) : b'.size + n ≤ b.size := by
  fun_induction takeFrom n taken b with
  | case1 n taken b k part hk =>
    obtain ⟨-, rfl⟩ := Prod.mk.inj h
    have := size_skip k b (by omega)
    omega
  | case2 => simp at h
  | case3 n taken b k part hk piece later harr ih =>
    have hrest := ih h
    have hfill : ((b.skip k).refill piece later).size ≤ (b.skip k).size := size_refill harr
    have := size_skip k b (by omega)
    omega

theorem size_takeFrom_error {n : Nat} {taken : List Bytes} {b b' : Buffered} {e : Ending}
    (h : takeFrom n taken b = (.error e, b')) : b'.size ≤ b.size := by
  fun_induction takeFrom n taken b with
  | case1 => simp at h
  | case2 n taken b k part hk =>
    obtain ⟨-, rfl⟩ := Prod.mk.inj h
    have := size_skip k b (by omega)
    omega
  | case3 n taken b k part hk piece later harr ih =>
    have hrest := ih h
    have hfill : ((b.skip k).refill piece later).size ≤ (b.skip k).size := size_refill harr
    have := size_skip k b (by omega)
    omega

instance : Source Buffered where
  take := take
  length_take h := by simpa using length_takeFrom h
  size := size
  size_take_ok := size_takeFrom_ok
  size_take_error := size_takeFrom_error

end Buffered

end ColumnWire

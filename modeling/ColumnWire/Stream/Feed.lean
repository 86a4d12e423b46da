import ColumnWire.Stream.Source

/-!
# A stream that is still open

A feed holds what has arrived so far. It behaves like a cursor, silent at its end while
the stream is open, and notes whether somebody wanted more than had arrived.
-/
namespace ColumnWire

/-- The bytes that have arrived so far. -/
structure Feed where
  bytes : Bytes := []
  /-- How the stream has ended, if it has. -/
  ending : Option Ending := none
  /-- Whether more was wanted of a stream that has not ended. -/
  starved : Bool := false
deriving Repr, DecidableEq, Inhabited

namespace Feed

/-- The feed as a stream that has come to its end. -/
def cursor (f : Feed) : Cursor := ⟨f.bytes, f.ending.getD .silent⟩

def take (n : Nat) (f : Feed) : Except Ending Bytes × Feed :=
  match f.cursor.take n with
  | (.ok bs, c) => (.ok bs, { f with bytes := c.bytes })
  | (.error e, c) => (.error e, { f with bytes := c.bytes, starved := f.starved || f.ending.isNone })

instance : Source Feed where
  take := take
  length_take := by
    intro n s s' bs h
    unfold take at h
    rcases hc : s.cursor.take n with ⟨_ | _, c⟩ <;> rw [hc] at h <;> cases h
    exact Cursor.length_take hc
  size f := f.bytes.length
  size_take_ok := by
    intro n s s' bs h
    unfold take at h
    rcases hc : s.cursor.take n with ⟨_ | _, c⟩ <;> rw [hc] at h <;> cases h
    exact Source.size_take_ok (σ := Cursor) hc
  size_take_error := by
    intro n s s' e h
    unfold take at h
    rcases hc : s.cursor.take n with ⟨_ | _, c⟩ <;> rw [hc] at h <;> cases h
    exact Source.size_take_error (σ := Cursor) hc

end Feed

end ColumnWire

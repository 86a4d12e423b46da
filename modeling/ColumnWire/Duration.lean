/-!
# Spans of time

Counted in nanoseconds. A span is written in the largest unit that it fills, with
as many decimals as it needs and no more.
-/
namespace ColumnWire

/-- A span of time. -/
structure Duration where
  nanos : Nat
deriving Repr, DecidableEq, Inhabited

namespace Duration

/-- A number of milliseconds. -/
def ofMillis (ms : Nat) : Duration := ⟨1000000 * ms⟩

/-- A limit given in milliseconds, where zero means no limit. -/
def limitOfMillis (ms : Nat) : Option Duration := if ms = 0 then none else some (ofMillis ms)

/-- The digits of `fraction` thousandths, millionths, …: `places` digits, the zeros at the end left off. -/
def decimals (fraction places : Nat) : String :=
  let ds := Nat.toDigits 10 fraction
  let padded := List.replicate (places - ds.length) '0' ++ ds
  String.ofList (padded.reverse.dropWhile (· = '0')).reverse

/-- A count of `scale` nanoseconds each, where `scale` is ten to the power `places`. -/
def inUnits (nanos scale places : Nat) (unit : String) : String :=
  let fraction := nanos % scale
  toString (nanos / scale) ++ (if fraction = 0 then "" else "." ++ decimals fraction places) ++ unit

/-- The written form of a span. -/
def text (d : Duration) : String :=
  if 1000000000 ≤ d.nanos then inUnits d.nanos 1000000000 9 "s"
  else if 1000000 ≤ d.nanos then inUnits d.nanos 1000000 6 "ms"
  else if 1000 ≤ d.nanos then inUnits d.nanos 1000 3 "µs"
  else toString d.nanos ++ "ns"

end Duration

end ColumnWire

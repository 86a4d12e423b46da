import ColumnWire.Text.Digits

/-!
# Names in plain letters

A text is written with letters, digits and hyphens alone: first its plain characters, then
a hyphen, then what has to be inserted, in the order of the code points. Each insertion is
the number of positions and code points that are passed over since the last one, written
with 36 digits whose weights follow the size of the numbers so far.
-/
namespace ColumnWire.Punycode

/-- The digit of a value: letters, and then figures. -/
def digit (d : Nat) : Char := if d < 26 then Char.ofNat (0x61 + d) else Char.ofNat (0x16 + d)

/-- The value of a digit of either case. -/
def value? (c : Char) : Option Nat :=
  if c.isDigit then some (c.toNat - 0x16)
  else if c.isAlpha then some (c.toLower.toNat - 0x61)
  else none

/-- The least value at a position for which another digit follows. -/
def threshold (bias position : Nat) : Nat := max 1 (min 26 (36 * position - bias))

theorem threshold_pos (bias position : Nat) : 1 ≤ threshold bias position := Nat.le_max_left ..

theorem threshold_le (bias position : Nat) : threshold bias position ≤ 26 := by
  unfold threshold
  omega

/-- The bias that fits a number, and how often the number was divided before. -/
def biasOf (n divided : Nat) : Nat :=
  if 455 < n then biasOf (n / 35) (divided + 1) else 36 * divided + 36 * n / (n + 38)
termination_by n
decreasing_by exact Nat.div_lt_self (by omega) (by omega)

/-- The bias after a number that makes a text of some length. The first number is far larger than
the others. -/
def adapt (n length : Nat) (first : Bool) : Nat :=
  let n := if first then n / 700 else n / 2
  biasOf (n + n / length) 0

/-- The first code point that is inserted. -/
def firstCode : Nat := 128

/-- The bias at the start. -/
def firstBias : Nat := 72

/-! ## Reading -/

/-- Numbers have to be below this. -/
def limit : Nat := 4294967296

/-- Read a number onto a sum: digits from a position on, the first of the given weight. -/
def readFrom (bias position weight sum : Nat) : List Char → Option (Nat × List Char)
  | [] => none
  | c :: cs =>
    match value? c with
    | none => none
    | some d =>
      let sum := sum + d * weight
      let t := threshold bias position
      if limit ≤ sum then none
      else if d < t then some (sum, cs)
      else if limit ≤ weight * (36 - t) then none
      else readFrom bias (position + 1) (weight * (36 - t)) sum cs

theorem readFrom_lt {bias position weight sum n : Nat} {cs rest : List Char}
    (h : readFrom bias position weight sum cs = some (n, rest)) : rest.length < cs.length := by
  induction cs generalizing position weight sum with
  | nil => simp [readFrom] at h
  | cons c cs ih =>
    simp only [readFrom] at h
    split at h
    · cases h
    · split at h
      · cases h
      · split at h
        · cases h
          exact Nat.lt_succ_self _
        · split at h
          · cases h
          · exact Nat.lt_succ_of_lt (ih h)

/-- Insert characters into a text. The next one is at least `code`, and if it is, stands at
`start` or later. -/
def insertFrom (bias code start : Nat) (text cs : List Char) : Option (List Char) :=
  match h : readFrom bias 1 1 start cs with
  | none => if cs = [] then some text else none
  | some (sum, rest) =>
    let length := text.length + 1
    let code := code + sum / length
    let place := sum % length
    if code.isValidChar then
      insertFrom (adapt (sum - start) length (start = 0)) code (place + 1)
        (text.insertIdx place (Char.ofNat code)) rest
    else none
termination_by cs.length
decreasing_by exact readFrom_lt h

/-- The text that plain letters stand for. -/
def decode? (cs : List Char) : Option (List Char) :=
  let (inserted, before) := cs.reverse.span (· ≠ '-')
  match before.drop 1 with
  | [] => insertFrom firstBias firstCode 0 [] cs
  | plain => insertFrom firstBias firstCode 0 (plain.reverse.map Char.toLower) inserted.reverse

/-! ## Writing -/

/-- A number in digits from a position on. -/
def digits (bias position n : Nat) : List Char :=
  let t := threshold bias position
  if n < t then [digit n]
  else digit (t + (n - t) % (36 - t)) :: digits bias (position + 1) ((n - t) / (36 - t))
termination_by n
decreasing_by
  have h1 := threshold_pos bias position
  have h2 := threshold_le bias position
  exact Nat.lt_of_le_of_lt (Nat.div_le_self ..) (by omega)

/-- A text on its way into plain letters. -/
structure Writing where
  /-- The digits so far. -/
  written : List Char := []
  bias : Nat := firstBias
  /-- What has been passed over since the last insertion. -/
  passed : Nat := 0
  /-- How many characters are accounted for. -/
  length : Nat

namespace Writing

/-- Come past a character of the text while those with the given code point are inserted. -/
def visit (plain code : Nat) (w : Writing) (c : Char) : Writing :=
  if c.toNat < code then { w with passed := w.passed + 1 }
  else if c.toNat = code then
    { written := w.written ++ digits w.bias 1 w.passed
      bias := adapt w.passed (w.length + 1) (w.length = plain)
      passed := 0
      length := w.length + 1 }
  else w

/-- Insert the characters with the given code points, which come in order; `start` is the first
code point that has not been passed over. -/
def insert (text : List Char) (plain : Nat) : (start : Nat) → List Nat → Writing → Writing
  | _, [], w => w
  | start, code :: codes, w =>
    let w := { w with passed := w.passed + (code - start) * (w.length + 1) }
    let w := text.foldl (visit plain code) w
    insert text plain (code + 1) codes { w with passed := w.passed + 1 }

end Writing

/-- A text in plain letters. -/
def encode (text : List Char) : List Char :=
  let plain := text.filter (·.toNat < firstCode)
  let codes := ((text.map Char.toNat).filter (firstCode ≤ ·)).mergeSort.eraseDups
  plain ++ (if plain = [] then [] else ['-']) ++
    (Writing.insert text plain.length firstCode codes { length := plain.length }).written

end ColumnWire.Punycode

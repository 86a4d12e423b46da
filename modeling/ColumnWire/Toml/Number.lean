import ColumnWire.Text.Digits

/-!
# Numbers of a document

Digits may be grouped by underscores. Integers have 64 bits; other numbers are only checked.
-/
namespace ColumnWire.Toml

/-- The digits of a number without the underscores between them. -/
def grouped? (isDigit : Char → Bool) (cs : List Char) : Option (List Char) :=
  let parts := cs.splitOnP (· = '_')
  if parts.all fun part => part ≠ [] && part.all isDigit then some parts.flatten else none

/-- Digits that do not start with a zero, unless it is the only one. -/
def decimal? (cs : List Char) : Option (List Char) :=
  match grouped? Char.isDigit cs with
  | some ds => if ds.head? = some '0' ∧ ds ≠ ['0'] then none else some ds
  | none => none

/-- The number that digits of a radix spell. -/
def radix? (radix : Nat) (cs : List Char) : Option Nat :=
  let isDigit : Char → Bool := fun c => ((Digits.hex? c).map (decide <| · < radix)).getD false
  (grouped? isDigit cs).map fun ds => ds.foldl (fun n d => radix * n + (Digits.hex? d).getD 0) 0

/-- The sign of a number, and what follows it. -/
def signed : List Char → Bool × List Char
  | '+' :: rest => (false, rest)
  | '-' :: rest => (true, rest)
  | cs => (false, cs)

/-- An integer of 64 bits with sign. -/
def integer? (cs : List Char) : Option Int :=
  let n : Option Int := match cs with
    | '0' :: 'x' :: ds => (radix? 16 ds).map Int.ofNat
    | '0' :: 'o' :: ds => (radix? 8 ds).map Int.ofNat
    | '0' :: 'b' :: ds => (radix? 2 ds).map Int.ofNat
    | cs =>
      let (negative, ds) := signed cs
      (decimal? ds).map fun ds => if negative then -(Digits.value ds : Int) else Digits.value ds
  n.filter fun n => -9223372036854775808 ≤ n && n ≤ 9223372036854775807

/-- Whether the number with the given digits before and after the point is past all numbers of 64
bits. -/
def isHuge (whole fraction : List Char) (exponent : Int) : Bool :=
  let ds := (whole ++ fraction).dropWhile (· = '0')
  let point : Int := ds.length + exponent - fraction.length
  if ds = [] then false
  else if 400 < point then true
  else if point < 300 then false
  else
    let scale := exponent - fraction.length
    let n := Digits.value ds
    let limit := Nat.pow 2 1024 - Nat.pow 2 970
    if 0 ≤ scale then limit ≤ n * Nat.pow 10 scale.toNat else limit * Nat.pow 10 (-scale).toNat ≤ n

/-- Whether a text is a number with a fraction or an exponent. -/
def isFloat (cs : List Char) : Bool :=
  let (negative, body) := signed cs
  if body = ['i', 'n', 'f'] ∨ body = ['n', 'a', 'n'] then true
  else
    let (mantissa, tail) := body.span fun c => c ≠ 'e' && c ≠ 'E'
    let (whole, afterWhole) := mantissa.span (· ≠ '.')
    let (small, exponentDigits) := signed (tail.drop 1)
    let fraction := if afterWhole = [] then some [] else grouped? Char.isDigit (afterWhole.drop 1)
    let exponent := if tail = [] then some ['0'] else grouped? Char.isDigit exponentDigits
    match decimal? whole, fraction, exponent with
    | some w, some f, some e =>
      let e : Int := if small then -(Digits.value e : Int) else Digits.value e
      (afterWhole ≠ [] || tail ≠ []) && (negative || !isHuge w f e)
    | _, _, _ => false

end ColumnWire.Toml

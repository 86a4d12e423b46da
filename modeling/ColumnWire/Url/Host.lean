import ColumnWire.Text.Digits
import ColumnWire.Url.DomainName
import ColumnWire.Url.Fault
import ColumnWire.Url.Percent

/-!
# Hosts

A host is an address of version 6 between brackets, or a name. Under the schemes of
the web a name may not hold certain characters even when they are spelled out, and one
that ends in a number has to be an address of version 4.
-/
namespace ColumnWire

/-- A host, as it is written. -/
structure Host where
  text : List Char
deriving Repr, DecidableEq, Inhabited

namespace Ipv6

/-- The pieces read so far, the last one first, and how many of them stand before the gap. -/
structure Partial where
  pieces : List Nat := []
  gap : Option Nat := none

/-- A number below 256 without leading zeros. -/
def byte? (cs : List Char) : Option Nat :=
  let n := Digits.value cs
  if cs ≠ [] ∧ cs.all Char.isDigit ∧ n < 256 ∧ (cs.head? ≠ some '0' ∨ cs = ['0']) then some n else none

/-- The two pieces that four numbers with points between them spell. -/
def dotted? (cs : List Char) : Option (Nat × Nat) :=
  match (cs.splitOnP (· = '.')).mapM byte? with
  | some [a, b, c, d] => some (256 * a + b, 256 * c + d)
  | _ => none

/-- Read pieces up to the end of the text. -/
def piecesFrom : (fuel : Nat) → Partial → List Char → Option Partial
  | 0, _, _ => none
  | _, p, [] => some p
  | fuel + 1, p, ':' :: rest =>
    if p.pieces.length = 8 ∨ p.gap.isSome then none
    else piecesFrom fuel { pieces := 0 :: p.pieces, gap := some (p.pieces.length + 1) } rest
  | fuel + 1, p, c :: cs =>
    if p.pieces.length = 8 then none
    else
      let digits := ((c :: cs).takeWhile fun c => (Digits.hex? c).isSome).take 4
      let rest := (c :: cs).drop digits.length
      let value := digits.foldl (fun n c => 16 * n + (Digits.hex? c).getD 0) 0
      match rest with
      | [] => some { p with pieces := value :: p.pieces }
      | ':' :: next => if next = [] then none else piecesFrom fuel { p with pieces := value :: p.pieces } next
      | '.' :: _ =>
        if digits = [] ∨ 6 < p.pieces.length then none
        else (dotted? (c :: cs)).map fun (a, b) => { p with pieces := b :: a :: p.pieces }
      | _ => none

/-- The eight pieces of an address. A gap stands for as many zeros as are missing; the piece in
front of it that is counted there is one of them. -/
def parse? (cs : List Char) : Option (List Nat) := do
  let p ← match cs with
    | ':' :: ':' :: rest => piecesFrom (cs.length + 1) { pieces := [0], gap := some 1 } rest
    | ':' :: _ => none
    | [_] | [] => none
    | cs => piecesFrom (cs.length + 1) {} cs
  let pieces := p.pieces.reverse
  match p.gap with
  | none => if pieces.length = 8 then some pieces else none
  | some k => some (pieces.take k ++ List.replicate (8 - pieces.length) 0 ++ pieces.drop k)

/-- Length of the run of zeros in front. -/
def zeros (pieces : List Nat) : Nat := (pieces.takeWhile (· = 0)).length

/-- Where the first of the longest runs of zeros starts, and its length; a single zero is no run. -/
def longestRun (pieces : List Nat) : Option (Nat × Nat) :=
  let runs := (List.range 8).map fun i => (i, zeros (pieces.drop i))
  let best := runs.foldl (fun best run => if best.2 < run.2 then run else best) (0, 1)
  if 1 < best.2 then some best else none

/-- Pieces in hexadecimal with colons between them. -/
def joined (pieces : List Nat) : List Char :=
  [':'].intercalate (pieces.map fun n => Nat.toDigits 16 n)

/-- The shortest way to write an address. -/
def text (pieces : List Nat) : List Char :=
  match longestRun pieces with
  | none => joined pieces
  | some (start, length) =>
    joined (pieces.take start) ++ [':', ':'] ++ joined (pieces.drop (start + length))

end Ipv6

namespace Ipv4

/-- A number in the notation of addresses: hexadecimal after `0x`, octal after another zero. The inner
result is missing if it is too large. -/
def number? (cs : List Char) : Option (Option Nat) :=
  let (radix, ds) := match cs with
    | '0' :: 'x' :: ds | '0' :: 'X' :: ds => (16, ds)
    | '0' :: d :: ds => (8, d :: ds)
    | ds => (10, ds)
  if cs = [] then none
  else
    match ds.mapM fun c => (Digits.hex? c).filter (· < radix) with
    | none => none
    | some values =>
      let n := values.foldl (fun n v => radix * n + v) 0
      some (if n < 4294967296 then some n else none)

/-- The parts between the points, without an empty one at the end. -/
def parts (cs : List Char) : List (List Char) :=
  let ps := cs.splitOnP (· = '.')
  if ps.getLast? = some [] ∧ 1 < ps.length then ps.dropLast else ps

/-- Whether a name ends in a number. -/
def endsInNumber (cs : List Char) : Bool :=
  match (parts cs).getLast? with
  | some last => (last ≠ [] && last.all Char.isDigit) || (number? last).isSome
  | none => false

/-- Whether a name is an address: up to four numbers, the last of which fills what is left. -/
def isAddress (cs : List Char) : Bool :=
  let ps := parts cs
  match ps.mapM fun p => (number? p).join with
  | none => false
  | some ns =>
    ps.length ≤ 4 && ns.dropLast.all (· ≤ 255) && (ns.getLast?.getD 0) < Nat.pow 256 (5 - ns.length)

end Ipv4

namespace Host

/-- An address between brackets. -/
def ofBrackets (cs : List Char) : Except UrlFault Host :=
  let inner := cs.drop 1
  if inner.getLast? ≠ some ']' then .error .badIpv6
  else
    match Ipv6.parse? inner.dropLast with
    | some pieces => .ok ⟨'[' :: Ipv6.text pieces ++ [']']⟩
    | none => .error .badIpv6

/-- Characters that no name may hold. -/
def forbidden (c : Char) : Bool := "\x00\t\n\r #/:<>?@[\\]^|".toList.contains c

/-- A host under a scheme of its own. Names are kept as they are, except for what is spelled out
everywhere. -/
def ofOpaque (cs : List Char) : Except UrlFault Host :=
  if cs.head? = some '[' then ofBrackets cs
  else if cs.any forbidden then .error .badHostCharacter
  else .ok ⟨Percent.encode Percent.controls cs⟩

/-- Characters that no name may hold under a scheme of the web. -/
def forbiddenOnWeb (c : Char) : Bool := forbidden c || c = '%' || c.toNat < 0x20 || c.toNat = 0x7F

/-- A host under a scheme of the web. -/
def ofWeb (cs : List Char) : Except UrlFault Host :=
  if cs.head? = some '[' then ofBrackets cs
  else
    match Utf8.decode? (Percent.decode (Utf8.encode (String.ofList cs))) with
    | none => .error .badHostName
    | some name =>
      match DomainName.labels? forbiddenOnWeb name.toList with
      | none => .error .badHostName
      | some labels =>
        let name := DomainName.written labels
        if name = [] then .error .noHost
        else if Ipv4.endsInNumber name && !Ipv4.isAddress name then .error .badIpv4
        else .ok ⟨name⟩

end Host

end ColumnWire

import ColumnWire.Json
import ColumnWire.Text.Digits

/-!
# Reading JSON

A recursive descent over the characters. Nothing may follow the value but blanks.
Every loop hands on what is left of the text, and `fuel` bounds how often: two units
for each character are enough, because every second step takes one.
-/
namespace ColumnWire.Json

/-- Whether a character may stand between two tokens. -/
def isSpace (c : Char) : Bool := c = ' ' || c = '\n' || c = '\t' || c = '\r'

/-- Drop the blanks in front. -/
def skipSpace (cs : List Char) : List Char := cs.dropWhile isSpace

/-- The number that four hexadecimal digits spell. -/
def unit? : List Char → Option (Nat × List Char)
  | a :: b :: c :: d :: rest => do
    let a ← Digits.hex? a
    let b ← Digits.hex? b
    let c ← Digits.hex? c
    let d ← Digits.hex? d
    return (((a * 16 + b) * 16 + c) * 16 + d, rest)
  | _ => none

/-- What a text in quotes may hold: characters, or one half of a surrogate pair. -/
inductive Piece where
  | char (c : Char)
  | half (high : Bool) (n : Nat)

/-- The character that a letter after a backslash stands for. -/
def unescape? : Char → Option Char
  | '"' => some '"'
  | '\\' => some '\\'
  | '/' => some '/'
  | 'b' => some '\x08'
  | 'f' => some '\x0c'
  | 'n' => some '\n'
  | 'r' => some '\r'
  | 't' => some '\t'
  | _ => none

/-- A numbered character or half of a pair. -/
def ofUnit (n : Nat) : Piece :=
  if 0xD800 ≤ n ∧ n < 0xDC00 then .half true n
  else if 0xDC00 ≤ n ∧ n < 0xE000 then .half false n
  else .char (Char.ofNat n)

/-- Cut the rest of a text in quotes into pieces, the last one first. -/
def piecesFrom : (fuel : Nat) → (done : List Piece) → List Char → Option (List Piece × List Char)
  | 0, _, _ => none
  | _, _, [] => none
  | _, done, '"' :: rest => some (done, rest)
  | fuel + 1, done, '\\' :: 'u' :: rest => do
    let (n, rest) ← unit? rest
    piecesFrom fuel (ofUnit n :: done) rest
  | _, _, ['\\'] => none
  | fuel + 1, done, '\\' :: c :: rest => do
    let c ← unescape? c
    piecesFrom fuel (.char c :: done) rest
  | fuel + 1, done, c :: rest =>
    if c.toNat < 0x20 then none else piecesFrom fuel (.char c :: done) rest

/-- Put pieces, the last one first, together in front of the characters `text`. Two halves that
belong together are one character; one that is alone spells nothing. -/
def joinPieces : List Piece → (text : List Char) → Option (List Char)
  | [], text => some text
  | .char c :: ps, text => joinPieces ps (c :: text)
  | .half false low :: .half true high :: ps, text =>
    joinPieces ps (Char.ofNat (0x10000 + (high - 0xD800) * 0x400 + (low - 0xDC00)) :: text)
  | .half _ _ :: _, _ => none

/-- Read the rest of a text in quotes. The text is missing if its escapes spell none. -/
def quoted? (cs : List Char) : Option (Option String × List Char) := do
  let (pieces, rest) ← piecesFrom (cs.length + 1) [] cs
  return ((joinPieces pieces []).map String.ofList, rest)

/-- At least one digit. -/
def digits? (cs : List Char) : Option (List Char × List Char) :=
  let (ds, rest) := cs.span Char.isDigit
  if ds = [] then none else some (ds, rest)

/-- The digits before the point; a zero in front stands alone. -/
def wholePart? : List Char → Option (List Char × List Char)
  | '0' :: rest => if (rest.head?.map Char.isDigit).getD false then none else some (['0'], rest)
  | cs => digits? cs

/-- A point and digits, or nothing. -/
def fraction? : List Char → Option (List Char × List Char)
  | '.' :: rest => do
    let (ds, rest) ← digits? rest
    return ('.' :: ds, rest)
  | cs => some ([], cs)

/-- An exponent, or nothing. -/
def exponent? : List Char → Option (List Char × List Char)
  | c :: rest =>
    if c = 'e' ∨ c = 'E' then
      let (sign, rest) := match rest with
        | '+' :: rest => (['+'], rest)
        | '-' :: rest => (['-'], rest)
        | rest => ([], rest)
      do
        let (ds, rest) ← digits? rest
        return (c :: (sign ++ ds), rest)
    else some ([], c :: rest)
  | [] => some ([], [])

/-- Whether an integer fits into 64 bits, with or without a sign. -/
def fits (n : Int) : Bool := -9223372036854775808 ≤ n && n ≤ 18446744073709551615

/-- Read a number. -/
def number? (cs : List Char) : Option (Json × List Char) := do
  let (negative, cs) := match cs with
    | '-' :: rest => (true, rest)
    | cs => (false, cs)
  let (whole, cs) ← wholePart? cs
  let (fraction, cs) ← fraction? cs
  let (exponent, cs) ← exponent? cs
  let n : Int := if negative then -(Digits.value whole : Int) else Digits.value whole
  let isInteger := fraction = [] ∧ exponent = [] ∧ fits n ∧ ¬(negative ∧ n = 0)
  let text := (if negative then ['-'] else []) ++ whole ++ fraction ++ exponent
  return (if isInteger then .integer n else .real (String.ofList text), cs)

/-- Drop a given beginning. -/
def skip? (start cs : List Char) : Option (List Char) :=
  if start.isPrefixOf cs then some (cs.drop start.length) else none

/-- The object of the given fields, unless one of the names spells no text. -/
def ofFields (fields : List (Option String × Json)) : Json :=
  match fields.mapM fun (name, value) => name.map (·, value) with
  | some fields => .object fields
  | none => .unpaired

mutual

/-- Read a value. -/
def value? : (fuel : Nat) → List Char → Option (Json × List Char)
  | 0, _ => none
  | fuel + 1, cs =>
    match skipSpace cs with
    | [] => none
    | '"' :: rest => do
      let (text, rest) ← quoted? rest
      return (text.elim .unpaired .string, rest)
    | '[' :: rest =>
      match skipSpace rest with
      | ']' :: rest => some (.array [], rest)
      | rest => itemsFrom fuel [] rest
    | '\x7b' :: rest =>
      match skipSpace rest with
      | '\x7d' :: rest => some (.object [], rest)
      | rest => fieldsFrom fuel [] rest
    | 'n' :: rest => (skip? ['u', 'l', 'l'] rest).map (.null, ·)
    | 't' :: rest => (skip? ['r', 'u', 'e'] rest).map (.bool true, ·)
    | 'f' :: rest => (skip? ['a', 'l', 's', 'e'] rest).map (.bool false, ·)
    | cs => number? cs

/-- Read items up to the end of an array; `done` holds those before, the last one first. -/
def itemsFrom : (fuel : Nat) → (done : List Json) → List Char → Option (Json × List Char)
  | 0, _, _ => none
  | fuel + 1, done, cs =>
    match value? fuel cs with
    | none => none
    | some (item, rest) =>
      match skipSpace rest with
      | ',' :: rest => itemsFrom fuel (item :: done) rest
      | ']' :: rest => some (.array (item :: done).reverse, rest)
      | _ => none

/-- Read fields up to the end of an object; `done` holds those before, the last one first. -/
def fieldsFrom : (fuel : Nat) → (done : List (Option String × Json)) → List Char →
    Option (Json × List Char)
  | 0, _, _ => none
  | fuel + 1, done, cs =>
    match skipSpace cs with
    | '"' :: rest =>
      match quoted? rest with
      | none => none
      | some (name, rest) =>
        match skipSpace rest with
        | ':' :: rest =>
          match value? fuel rest with
          | none => none
          | some (value, rest) =>
            match skipSpace rest with
            | ',' :: rest => fieldsFrom fuel ((name, value) :: done) rest
            | '\x7d' :: rest => some (ofFields ((name, value) :: done).reverse, rest)
            | _ => none
        | _ => none
    | _ => none

end

/-- The value that a text spells, if it spells one. -/
def parse? (text : String) : Option Json :=
  let cs := text.toList
  match value? (2 * cs.length + 2) cs with
  | some (value, rest) => if skipSpace rest = [] then some value else none
  | none => none

end ColumnWire.Json

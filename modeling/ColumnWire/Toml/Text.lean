import ColumnWire.Text.Digits

/-!
# Texts and keys of a document

Texts stand between single or double quotes, or between three of them if they span
lines. Only double quotes know escapes.
-/
namespace ColumnWire.Toml

/-- Drop blanks and tabs. -/
def skipBlank (cs : List Char) : List Char := cs.dropWhile fun c => c = ' ' || c = '\t'

/-- Drop the end of a line. -/
def newline? : List Char → Option (List Char)
  | '\n' :: rest => some rest
  | '\r' :: '\n' :: rest => some rest
  | _ => none

/-- Whether a character may stand in a comment or a text as it is. -/
def isPlain (c : Char) : Bool := c = '\t' || (0x20 ≤ c.toNat && c.toNat ≠ 0x7F)

/-- Drop a comment. -/
def skipComment : List Char → List Char
  | '#' :: rest => rest.dropWhile isPlain
  | cs => cs

/-- Drop what may follow the last token of a line, and its end. -/
def lineEnd? (cs : List Char) : Option (List Char) :=
  match skipComment (skipBlank cs) with
  | [] => some []
  | rest => newline? rest

/-- Drop blanks, line ends and comments. At most `fuel` lines end. -/
def skipLines : (fuel : Nat) → List Char → List Char
  | 0, cs => cs
  | fuel + 1, cs =>
    let rest := skipComment (skipBlank cs)
    match newline? rest with
    | some rest => skipLines fuel rest
    | none => rest

/-- The character with a number of `n` hexadecimal digits. -/
def numbered? (n : Nat) (cs : List Char) : Option (Char × List Char) :=
  match (cs.take n).mapM Digits.hex? with
  | none => none
  | some ds =>
    let v := ds.foldl (fun v d => 16 * v + d) 0
    if ds.length = n ∧ (v < 0xD800 ∨ (0xE000 ≤ v ∧ v < 0x110000)) then some (Char.ofNat v, cs.drop n) else none

/-- The character that stands behind a backslash. -/
def escape? : List Char → Option (Char × List Char)
  | 'b' :: rest => some ('\x08', rest)
  | 't' :: rest => some ('\t', rest)
  | 'n' :: rest => some ('\n', rest)
  | 'f' :: rest => some ('\x0c', rest)
  | 'r' :: rest => some ('\r', rest)
  | '"' :: rest => some ('"', rest)
  | '\\' :: rest => some ('\\', rest)
  | 'u' :: rest => numbered? 4 rest
  | 'U' :: rest => numbered? 8 rest
  | _ => none

/-- Read the rest of a text on one line. -/
def lineTextFrom (quote : Char) : (fuel : Nat) → (done : List Char) → List Char →
    Option (String × List Char)
  | 0, _, _ => none
  | _, _, [] => none
  | fuel + 1, done, c :: rest =>
    if c = quote then some (String.ofList done.reverse, rest)
    else if c = '\\' ∧ quote = '"' then
      match escape? rest with
      | some (c, rest) => lineTextFrom quote fuel (c :: done) rest
      | none => none
    else if isPlain c then lineTextFrom quote fuel (c :: done) rest
    else none

/-- Drop blanks and the ends of lines. -/
def skipBreaks : List Char → List Char
  | ' ' :: rest => skipBreaks rest
  | '\t' :: rest => skipBreaks rest
  | '\n' :: rest => skipBreaks rest
  | '\r' :: '\n' :: rest => skipBreaks rest
  | cs => cs

/-- Drop the end of a line behind a backslash, with the blanks around it. -/
def joinLine? (cs : List Char) : Option (List Char) := (newline? (skipBlank cs)).map skipBreaks

/-- Read the rest of a text that may span lines. Up to two quotes may stand before the three that
end it. -/
def longTextFrom (quote : Char) : (fuel : Nat) → (done : List Char) → List Char →
    Option (String × List Char)
  | 0, _, _ => none
  | _, _, [] => none
  | fuel + 1, done, c :: rest =>
    if c = quote then
      let count := ((c :: rest).takeWhile (· = quote)).length
      let rest := (c :: rest).drop count
      if count < 3 then longTextFrom quote fuel (List.replicate count quote ++ done) rest
      else if count ≤ 5 then
        some (String.ofList (List.replicate (count - 3) quote ++ done).reverse, rest)
      else none
    else if c = '\\' ∧ quote = '"' then
      match joinLine? rest with
      | some rest => longTextFrom quote fuel done rest
      | none =>
        match escape? rest with
        | some (c, rest) => longTextFrom quote fuel (c :: done) rest
        | none => none
    else if isPlain c then longTextFrom quote fuel (c :: done) rest
    else
      match newline? (c :: rest) with
      | some rest => longTextFrom quote fuel ('\n' :: done) rest
      | none => none

/-- Read a text on one line. -/
def lineText? : List Char → Option (String × List Char)
  | '"' :: rest => lineTextFrom '"' (rest.length + 1) [] rest
  | '\'' :: rest => lineTextFrom '\'' (rest.length + 1) [] rest
  | _ => none

/-- Read a text. A line end right behind three quotes does not belong to it. -/
def text? : List Char → Option (String × List Char)
  | '"' :: '"' :: '"' :: rest => longTextFrom '"' (rest.length + 1) [] ((newline? rest).getD rest)
  | '\'' :: '\'' :: '\'' :: rest => longTextFrom '\'' (rest.length + 1) [] ((newline? rest).getD rest)
  | cs => lineText? cs

/-! ## Keys -/

/-- Whether a character may stand in a key without quotes. -/
def isBare (c : Char) : Bool := c.isAlphanum || c = '_' || c = '-'

/-- Read one part of a key. -/
def keyPart? (cs : List Char) : Option (String × List Char) :=
  let (bare, rest) := cs.span isBare
  if bare = [] then lineText? cs else some (String.ofList bare, rest)

/-- Read the parts of a key, with points between them. -/
def keyFrom : (fuel : Nat) → (done : List String) → List Char → Option (List String × List Char)
  | 0, _, _ => none
  | fuel + 1, done, cs =>
    match keyPart? (skipBlank cs) with
    | none => none
    | some (part, rest) =>
      match skipBlank rest with
      | '.' :: rest => keyFrom fuel (part :: done) rest
      | rest => some ((part :: done).reverse, rest)

/-- Most parts of a key, and most values inside each other. -/
def maxDepth : Nat := 79

/-- Read a key and the blanks around it. -/
def key? (cs : List Char) : Option (List String × List Char) :=
  match keyFrom (cs.length + 1) [] cs with
  | some (path, rest) => if path.length ≤ maxDepth then some (path, rest) else none
  | none => none

end ColumnWire.Toml

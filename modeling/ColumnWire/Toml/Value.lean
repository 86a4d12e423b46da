import ColumnWire.Toml.Moment
import ColumnWire.Toml.Number
import ColumnWire.Toml.Table
import ColumnWire.Toml.Text

/-!
# Values of a document

Values are read as those of JSON. A number that is no integer is kept as it is written,
not-a-number and infinity too; a moment is an object whose one field holds its text.
-/
namespace ColumnWire.Toml

/-- Whether a character may stand in a number or a time. -/
def isWord (c : Char) : Bool := c.isAlphanum || c = '+' || c = '-' || c = '_' || c = '.' || c = ':'

/-- The name of the field that holds the text of a moment. -/
def momentField : String := "$__toml_private_datetime"

/-- The value of a moment. -/
def ofMoment (text : List Char) : Json := .object [(momentField, .string (String.ofList text))]

/-- The value of a word: a truth value, a number or a moment. -/
def ofWord? (word : List Char) : Option Json :=
  if word = ['t', 'r', 'u', 'e'] then some (.bool true)
  else if word = ['f', 'a', 'l', 's', 'e'] then some (.bool false)
  else
    match integer? word, moment? word with
    | some n, _ => some (.integer n)
    | none, some text => some (ofMoment text)
    | none, none => if isFloat word then some (.real (String.ofList word)) else none

/-- Read a word. A date may be followed by a blank and a time. -/
def word? (cs : List Char) : Option (Json × List Char) :=
  let (word, rest) := cs.span isWord
  let (time, later) := (rest.drop 1).span isWord
  match if rest.head? = some ' ' then dateTime? word time else none with
  | some text => some (ofMoment text, later)
  | none => (ofWord? word).map (·, rest)

mutual

/-- Read a value that stands inside `depth` others. -/
def value? : (fuel depth : Nat) → List Char → Option (Json × List Char)
  | 0, _, _ => none
  | fuel + 1, depth, cs =>
    match cs with
    | '[' :: rest => if depth < maxDepth then itemsFrom fuel (depth + 1) [] rest else none
    | '\x7b' :: rest =>
      if maxDepth ≤ depth then none
      else
        match skipBlank rest with
        | '\x7d' :: rest => some (.object [], rest)
        | rest => pairsFrom fuel (depth + 1) [] rest
    | '"' :: _ | '\'' :: _ => (text? cs).map fun (s, rest) => (.string s, rest)
    | cs => word? cs

/-- Read items up to the end of an array; `done` holds those before, the last one first. -/
def itemsFrom : (fuel depth : Nat) → (done : List Json) → List Char → Option (Json × List Char)
  | 0, _, _, _ => none
  | fuel + 1, depth, done, cs =>
    match skipLines (cs.length + 1) cs with
    | ']' :: rest => some (.array done.reverse, rest)
    | cs =>
      match value? fuel depth cs with
      | none => none
      | some (item, rest) =>
        match skipLines (rest.length + 1) rest with
        | ',' :: rest => itemsFrom fuel depth (item :: done) rest
        | ']' :: rest => some (.array (item :: done).reverse, rest)
        | _ => none

/-- Read keys with values up to the end of a table on one line. -/
def pairsFrom : (fuel depth : Nat) → Entries → List Char → Option (Json × List Char)
  | 0, _, _, _ => none
  | fuel + 1, depth, entries, cs =>
    match key? cs with
    | none => none
    | some (path, rest) =>
      match rest with
      | '=' :: rest =>
        match value? fuel depth (skipBlank rest) with
        | none => none
        | some (value, rest) =>
          match entries.add true value path with
          | none => none
          | some entries =>
            match skipBlank rest with
            | ',' :: rest => pairsFrom fuel depth entries rest
            | '\x7d' :: rest => some (.object (closeAll entries), rest)
            | _ => none
      | _ => none

end

end ColumnWire.Toml

/-!
# JSON values and their text

The text of a value is compact: no blanks, one line, and no control character in it.
A number that is no integer is kept as it is written.
-/
namespace ColumnWire

/-- A value of the JSON format. Fields of an object keep their order, and a name may occur twice. -/
inductive Json where
  | null
  | bool (value : Bool)
  | integer (value : Int)
  /-- A number with a fraction or an exponent, or one too large for 64 bits. -/
  | real (text : String)
  | string (text : String)
  | array (items : List Json)
  | object (fields : List (String × Json))
  /-- A well-formed text, or an object with a name, that holds half of a surrogate pair. -/
  | unpaired
deriving Inhabited

namespace Json

/-- Four lowercase hexadecimal digits. -/
def fourDigits (n : Nat) : String :=
  String.ofList ([n / 4096 % 16, n / 256 % 16, n / 16 % 16, n % 16].map Nat.digitChar)

/-- How a character stands between quotes. -/
def escape (c : Char) : String :=
  if c = '"' then "\\\""
  else if c = '\\' then "\\\\"
  else if c = '\x08' then "\\b"
  else if c = '\x0c' then "\\f"
  else if c = '\n' then "\\n"
  else if c = '\r' then "\\r"
  else if c = '\t' then "\\t"
  else if c.toNat < 0x20 then "\\u" ++ fourDigits c.toNat
  else c.toString

/-- A text in quotes. -/
def quote (s : String) : String := "\"" ++ String.join (s.toList.map escape) ++ "\""

mutual

/-- The text of a value. -/
def render : Json → String
  | .null => "null"
  | .bool b => if b then "true" else "false"
  | .integer n => toString n
  | .real text => text
  | .string text => quote text
  | .array items => "[" ++ ",".intercalate (renderItems items) ++ "]"
  | .object fields => "\x7b" ++ ",".intercalate (renderFields fields) ++ "\x7d"
  | .unpaired => "null"

/-- The texts of the items of an array. -/
def renderItems : List Json → List String
  | [] => []
  | item :: items => render item :: renderItems items

/-- The texts of the fields of an object. -/
def renderFields : List (String × Json) → List String
  | [] => []
  | (name, value) :: fields => (quote name ++ ":" ++ render value) :: renderFields fields

end

theorem renderItems_eq_map (items : List Json) : renderItems items = items.map render := by
  induction items with
  | nil => rfl
  | cons item items ih => simp [renderItems, ih]

theorem renderFields_eq_map (fields : List (String × Json)) :
    renderFields fields = fields.map fun (name, value) => quote name ++ ":" ++ render value := by
  induction fields with
  | nil => rfl
  | cons field fields ih => simp [renderFields, ih]

/-- The value of a field; of two with one name, of the first. -/
def field? (name : String) (fields : List (String × Json)) : Option Json :=
  (fields.find? fun entry => entry.1 = name).map (·.2)

end Json

end ColumnWire

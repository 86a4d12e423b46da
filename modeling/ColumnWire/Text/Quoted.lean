import ColumnWire.Text.Invisible

/-!
# Quoted text

A text inside double quotes, on one line and with every character visible: the
quote, the backslash and the common controls are escaped by a letter, every other
invisible character by its number.
-/
namespace ColumnWire.Quoted

/-- A number in lowercase hexadecimal. -/
def hex (n : Nat) : String := String.ofList (Nat.toDigits 16 n)

/-- How one character is spelled between the quotes. -/
def spell (c : Char) : String :=
  if c = '\t' then "\\t"
  else if c = '\n' then "\\n"
  else if c = '\r' then "\\r"
  else if c = '"' then "\\\""
  else if c = '\\' then "\\\\"
  else if c.toNat = 0 then "\\0"
  else if Invisible c then "\\u\x7b" ++ hex c.toNat ++ "\x7d"
  else c.toString

/-- The quoted form of a text. -/
def encode (s : String) : String := "\"" ++ String.join (s.toList.map spell) ++ "\""

end ColumnWire.Quoted

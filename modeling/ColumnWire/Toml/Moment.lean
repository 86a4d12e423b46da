import ColumnWire.Text.Digits

/-!
# Dates and times of a document

A moment is a date, a time of day, or both; a date and a time may say how far they are
from the universal time. Moments are checked against the calendar, and each has one
usual text: a `T` before the time, no zeros at the end of a fraction, nine digits of it at
most, and `Z` for the universal time itself.
-/
namespace ColumnWire.Toml

/-- The number that exactly so many digits spell. -/
def fixed? (n : Nat) (cs : List Char) : Option Nat :=
  if cs.length = n ∧ cs.all Char.isDigit then some (Digits.value cs) else none

/-- Whether exactly so many digits spell a number from `least` to `most`. -/
def isFixed (n least most : Nat) (cs : List Char) : Bool :=
  ((fixed? n cs).map fun v => least ≤ v && v ≤ most).getD false

/-- Days of a month. -/
def monthLength (year month : Nat) : Nat :=
  if month = 2 then
    if year % 4 = 0 ∧ (year % 100 ≠ 0 ∨ year % 400 = 0) then 29 else 28
  else if month = 4 ∨ month = 6 ∨ month = 9 ∨ month = 11 then 30
  else 31

/-- Whether a text is a date. -/
def isDate (cs : List Char) : Bool :=
  match cs.splitOnP (· = '-') with
  | [y, m, d] =>
    isFixed 4 0 9999 y && isFixed 2 1 12 m && isFixed 2 1 (monthLength (Digits.value y) (Digits.value m)) d
  | _ => false

/-- Whether a text is an hour and a minute. -/
def isHourMinute (cs : List Char) : Bool :=
  match cs.splitOnP (· = ':') with
  | [h, m] => isFixed 2 0 23 h && isFixed 2 0 59 m
  | _ => false

/-- Whether a text is a time of day to the second, which may be a leap second. -/
def isClock (cs : List Char) : Bool :=
  match cs.splitOnP (· = ':') with
  | [h, m, s] => isFixed 2 0 23 h && isFixed 2 0 59 m && isFixed 2 0 60 s
  | _ => false

/-- The usual form of the digits of a fraction, with the point before them. -/
def usualFraction (ds : List Char) : List Char :=
  match ((ds.take 9).reverse.dropWhile (· = '0')).reverse with
  | [] => []
  | ds => '.' :: ds

/-- The usual form of a time of day. -/
def time? (cs : List Char) : Option (List Char) :=
  let (clock, fraction) := cs.span (· ≠ '.')
  if ¬isClock clock then none
  else
    match fraction with
    | [] => some clock
    | _ :: ds => if ds ≠ [] ∧ ds.all Char.isDigit then some (clock ++ usualFraction ds) else none

/-- The usual form of a distance from the universal time. Without a distance there is no sign. -/
def offset? : List Char → Option (List Char)
  | [] => some []
  | ['Z'] | ['z'] => some ['Z']
  | sign :: cs =>
    if (sign = '+' ∨ sign = '-') ∧ isHourMinute cs then
      some ((if cs.all fun c => c = '0' || c = ':' then '+' else sign) :: cs)
    else none

/-- The usual form of a time of day with its distance from the universal time. -/
def offsetTime? (cs : List Char) : Option (List Char) := do
  let (time, offset) := cs.span fun c => c ≠ 'Z' && c ≠ 'z' && c ≠ '+' && c ≠ '-'
  return (← time? time) ++ (← offset? offset)

/-- The usual form of a date and a time. -/
def dateTime? (date time : List Char) : Option (List Char) :=
  if isDate date then (offsetTime? time).map fun time => date ++ 'T' :: time else none

/-- The usual form of a moment that is written without blanks. -/
def moment? (cs : List Char) : Option (List Char) :=
  if isDate cs then some cs
  else
    match cs.drop 10 with
    | c :: time => if c = 'T' ∨ c = 't' then dateTime? (cs.take 10) time else time? cs
    | [] => time? cs

end ColumnWire.Toml

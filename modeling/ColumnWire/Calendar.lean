/-!
# Days and seconds as dates

Times are counted from the start of 1970, in days or in seconds, and written in the
Gregorian calendar without time zone.
-/
namespace ColumnWire

/-- A day of the Gregorian calendar. -/
structure Date where
  year : Int
  month : Nat
  day : Nat
deriving Repr, DecidableEq

namespace Calendar

/-- A number with at least `width` digits. -/
def padded (width n : Nat) : String :=
  let ds := Nat.toDigits 10 n
  String.ofList (List.replicate (width - ds.length) '0' ++ ds)

/-- The date that is so many days after the start of 1970. Years are counted from March on,
so that the leap day comes last, in cycles of 400 years. -/
def dateOfDays (days : Int) : Date :=
  let z := days + 719468
  let era := z.fdiv 146097
  let dayOfEra := (z - era * 146097).toNat
  let yearOfEra := (dayOfEra - dayOfEra / 1460 + dayOfEra / 36524 - dayOfEra / 146096) / 365
  let dayOfYear := dayOfEra - (365 * yearOfEra + yearOfEra / 4 - yearOfEra / 100)
  let month := (5 * dayOfYear + 2) / 153
  let day := dayOfYear - (153 * month + 2) / 5 + 1
  let year := yearOfEra + era * 400
  if month < 10 then ⟨year, month + 3, day⟩ else ⟨year + 1, month - 9, day⟩

/-- A year with four digits; one that needs more, or lies before the year zero, has a sign. -/
def yearText (year : Int) : String :=
  if 0 ≤ year ∧ year ≤ 9999 then padded 4 year.toNat
  else (if year < 0 then "-" else "+") ++ padded 4 year.natAbs

/-- A date with dashes. -/
def dateText (d : Date) : String := yearText d.year ++ "-" ++ padded 2 d.month ++ "-" ++ padded 2 d.day

/-- A second of the day with colons. -/
def clockText (second : Nat) : String :=
  padded 2 (second / 3600) ++ ":" ++ padded 2 (second / 60 % 60) ++ ":" ++ padded 2 (second % 60)

/-- A moment: the date, a separator, and the time of day. -/
def momentText (separator : String) (seconds : Int) : String :=
  dateText (dateOfDays (seconds.fdiv 86400)) ++ separator ++ clockText (seconds.fmod 86400).toNat

/-- A moment as digits alone, from the year to the second. -/
def stampText (seconds : Int) : String :=
  String.ofList ((momentText "" seconds).toList.filter Char.isDigit)

/-- The moments that have a date: those of the years from -262143 to 262142. -/
def hasDate (seconds : Int) : Bool := -8334601228800 ≤ seconds && seconds ≤ 8210266876799

end Calendar

end ColumnWire

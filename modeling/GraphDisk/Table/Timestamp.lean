/-!
# Moments as text

A moment is a number of seconds since the beginning of 1970 in universal time, written as a date and a time of day in
the Gregorian calendar, which is continued backwards. Years are counted from March, so that the leap day is the last
day of a year and four hundred years are always equally long. Only some half a million years can be written.
-/

namespace GraphDisk.Timestamp

def padded (width n : Nat) : List Char :=
  let digits := Nat.toDigits 10 n
  List.replicate (width - digits.length) '0' ++ digits

/-- Year, month and day of a day counted from the first of January 1970. -/
def civil (day : Int) : Int × Nat × Nat :=
  let shifted := day + 719468
  let era := shifted.fdiv 146097
  let dayOfEra := (shifted.fmod 146097).toNat
  let yearOfEra := (dayOfEra - dayOfEra / 1460 + dayOfEra / 36524 - dayOfEra / 146096) / 365
  let dayOfYear := dayOfEra - (365 * yearOfEra + yearOfEra / 4 - yearOfEra / 100)
  let monthFromMarch := (5 * dayOfYear + 2) / 153
  let month := if monthFromMarch < 10 then monthFromMarch + 3 else monthFromMarch - 9
  let year := era * 400 + yearOfEra + if month ≤ 2 then 1 else 0
  (year, month, dayOfYear - (153 * monthFromMarch + 2) / 5 + 1)

/-- A year: four digits, and a sign if it does not lie between 0 and 9999. -/
def yearText (year : Int) : List Char :=
  if year < 0 then '-' :: padded 4 year.natAbs
  else if year ≤ 9999 then padded 4 year.natAbs
  else '+' :: padded 4 year.natAbs

/-- The years that can be written. -/
def inCalendar (year : Int) : Bool := decide (-262143 ≤ year) && decide (year ≤ 262142)

/-- A moment as date, time of day and offset, if its year can be written. -/
def text (seconds : Int) : Option String :=
  let (year, month, day) := civil (seconds.fdiv 86400)
  let time := (seconds.fmod 86400).toNat
  if inCalendar year then
    some (String.ofList (yearText year ++ '-' :: padded 2 month ++ '-' :: padded 2 day ++ ' ' ::
      padded 2 (time / 3600) ++ ':' :: padded 2 (time / 60 % 60) ++ ':' :: padded 2 (time % 60)) ++ " +00:00")
  else none

end GraphDisk.Timestamp

/-!
# Dates and times as text

The store keeps the time of a lease as text, year first, so that earlier times come first in
the order of text. A time is given by its seconds since the start of the year 1970. The
calendar is the one in use today, carried back before its introduction; it is counted in
spans of four hundred years that start in March, so that a leap day is the last day of a year.
-/

namespace Treasury.Time

/-- A day of the calendar. -/
structure Date where
  year : Int
  month : Nat
  day : Nat
  deriving DecidableEq, Repr

/-- The date of a day, counted from the first of 1970. -/
def dateOf (days : Int) : Date :=
  let shifted := days + 719468
  let span := shifted.fdiv 146097
  let dayOfSpan := (shifted - span * 146097).toNat
  let yearOfSpan :=
    (dayOfSpan - dayOfSpan / 1460 + dayOfSpan / 36524 - dayOfSpan / 146096) / 365
  let dayOfYear := dayOfSpan - (365 * yearOfSpan + yearOfSpan / 4 - yearOfSpan / 100)
  let monthFromMarch := (5 * dayOfYear + 2) / 153
  let month := if monthFromMarch < 10 then monthFromMarch + 3 else monthFromMarch - 9
  { year := span * 400 + yearOfSpan + (if month ≤ 2 then 1 else 0)
    month := month
    day := dayOfYear - (153 * monthFromMarch + 2) / 5 + 1 }

/-- The number of days in a month. -/
def daysIn (year month : Nat) : Nat :=
  if month = 2 then
    if year % 4 = 0 ∧ (year % 100 ≠ 0 ∨ year % 400 = 0) then 29 else 28
  else if month = 4 ∨ month = 6 ∨ month = 9 ∨ month = 11 then 30
  else 31

/-- A number with zeros in front of it. -/
def padded (width n : Nat) : String :=
  let digits := toString n
  String.ofList (List.replicate (width - digits.length) '0') ++ digits

/-- A date, year first. -/
def Date.toText (d : Date) : String :=
  let year := padded 4 d.year.natAbs
  let year := if d.year < 0 then "-" ++ year else year
  s!"{year}-{padded 2 d.month}-{padded 2 d.day}"

/-- The earliest time of the count of days that astronomers use; none before it has a text. -/
def earliest : Int := -210866760000

/-- A date with the time of day, in seconds since 1970. -/
def toText? (seconds : Int) : Option String :=
  if seconds < earliest then none
  else
    let rest := (seconds.emod 86400).toNat
    let date := dateOf (seconds.ediv 86400)
    some s!"{date.toText} {padded 2 (rest / 3600)}:{padded 2 (rest / 60 % 60)}:{padded 2 (rest % 60)}"

/-- The time some minutes ago, which cannot be fewer than none. -/
def minutesAgo? (now minutes : Int) : Option String :=
  if minutes < 0 then none else toText? (now - 60 * minutes)

end Treasury.Time

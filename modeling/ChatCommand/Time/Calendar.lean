/-
The Gregorian calendar, extended to all years before and after its adoption.

* `daysInMonth`, `daysBeforeYear`, `daysBeforeMonth`: the lengths of months and years;
* `Date`: a day by year, month and day of the month;
* `Date.ofYmd?`: the date with these numbers, if there is one among the years kept;
* `Date.toDays`, `Date.ofDays`: the days counted from 1 January 1970;
* `Date.addMonths?`: the date some months on, on the last day of a shorter month;
* `Weekday`: the days of the week, with the one of a day number.
-/

namespace ChatCommand

/-! ### Months and years -/

def isLeapYear (year : Int) : Bool :=
  year % 4 == 0 && (year % 100 != 0 || year % 400 == 0)

/-- The lengths of the months of a year, January first. -/
def monthLengths (year : Int) : List Nat :=
  [31, if isLeapYear year then 29 else 28, 31, 30, 31, 30, 31, 31, 30, 31, 30, 31]

/-- The number of days of a month, 0 if there is no such month. -/
def daysInMonth (year : Int) (month : Nat) : Nat :=
  if month = 0 then 0 else (monthLengths year)[month - 1]?.getD 0

/-- The days from 1 January of year 1 to 1 January of a year. -/
def daysBeforeYear (year : Int) : Int :=
  let past := year - 1
  365 * past + past / 4 - past / 100 + past / 400

/-- The days of a year before a month. -/
def daysBeforeMonth (year : Int) (month : Nat) : Nat :=
  ((monthLengths year).take (month - 1)).foldl (· + ·) 0

/-- The days from 1 January of year 1 to 1 January 1970. -/
def epochDays : Int := daysBeforeYear 1970

/-! ### Dates -/

/-- A day by year, month and day of the month, the latter two from 1. -/
structure Date where
  year : Int
  month : Nat
  day : Nat
deriving DecidableEq

namespace Date

/-- The first year with dates. -/
def firstYear : Int := -262143

/-- The last year with dates. -/
def lastYear : Int := 262142

/-- The date with these numbers, if the year has dates and the month has the day. -/
def ofYmd? (year : Int) (month day : Nat) : Option Date :=
  if firstYear ≤ year ∧ year ≤ lastYear ∧ 1 ≤ day ∧ day ≤ daysInMonth year month then
    some ⟨year, month, day⟩
  else none

/-- The days from 1 January 1970 to a date. -/
def toDays (d : Date) : Int :=
  daysBeforeYear d.year + daysBeforeMonth d.year d.month + (d.day - 1) - epochDays

/-- Month and day of the month, from the months that are left, the number of the first of them
and the days to go. -/
def monthAndDay : List Nat → Nat → Nat → Nat × Nat
  | [], month, rest => (month, rest + 1)
  | length :: lengths, month, rest =>
    if rest < length then (month, rest + 1) else monthAndDay lengths (month + 1) (rest - length)

/-- The year that holds a day counted from 1 January of year 1, and the days of the year before
it. A year of four hundred, a hundred or four that ends with a leap day is one day longer. -/
def yearAndDay (days : Int) : Int × Nat :=
  let cycles := days / 146097
  let inCycle := (days % 146097).toNat
  let centuries := min (inCycle / 36524) 3
  let inCentury := inCycle - centuries * 36524
  let quads := inCentury / 1461
  let inQuad := inCentury % 1461
  let years := min (inQuad / 365) 3
  (400 * cycles + 100 * centuries + 4 * quads + years + 1, inQuad - years * 365)

/-- The date a number of days after 1 January 1970. -/
def ofDays (days : Int) : Date :=
  let (year, rest) := yearAndDay (days + epochDays)
  let (month, day) := monthAndDay (monthLengths year) 1 rest
  ⟨year, month, day⟩

/-- The day number of the first date. -/
def firstDay : Int := toDays ⟨firstYear, 1, 1⟩

/-- The day number of the last date. -/
def lastDay : Int := toDays ⟨lastYear, 12, 31⟩

/-- The date some months on, or back, with the same day of the month or the last one there. -/
def addMonths? (d : Date) (months : Int) : Option Date :=
  let total := d.year * 12 + (d.month - 1) + months
  let year := total / 12
  let month := (total % 12).toNat + 1
  ofYmd? year month (min d.day (daysInMonth year month))

end Date

/-! ### Days of the week -/

inductive Weekday where
  | mon | tue | wed | thu | fri | sat | sun
deriving DecidableEq

namespace Weekday

def all : List Weekday := [mon, tue, wed, thu, fri, sat, sun]

/-- The day's place in the week, Monday's being 0. -/
def index : Weekday → Nat
  | mon => 0 | tue => 1 | wed => 2 | thu => 3 | fri => 4 | sat => 5 | sun => 6

/-- The three letters that stand for the day. -/
def abbreviation : Weekday → String
  | mon => "Mon" | tue => "Tue" | wed => "Wed" | thu => "Thu"
  | fri => "Fri" | sat => "Sat" | sun => "Sun"

/-- The day's name in lower case. -/
def fullName : Weekday → String
  | mon => "monday" | tue => "tuesday" | wed => "wednesday" | thu => "thursday"
  | fri => "friday" | sat => "saturday" | sun => "sunday"

/-- How many days after the day `d` comes first, from 0 to 6. 1 January 1970 was a Thursday. -/
def daysUntil (d : Weekday) (day : Int) : Int :=
  (d.index - (day + 3)) % 7

end Weekday

end ChatCommand

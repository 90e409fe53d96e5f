/-
Spoken times.

* `TimePattern`: what a time expression says, either amounts (`relative`) or places in the
  calendar (`definitive`), with the use a command makes of it;
* `TimePattern.relative`: so many of a unit, where a fraction becomes the next smaller unit;
* `TimePattern.clock`, `TimePattern.parseClock?`: a time of day, and reading one;
* `TimePattern.merge?`: two expressions about one moment or one span put together;
* `TimePattern.withMeridiem?`: the hour of a clock face put before or after noon;
* `IntervalSpec`: a pattern without its use, as the times at which a command repeats.

Amounts are 64-bit integers, and sums of amounts wrap.
-/
import ChatCommand.Decimal.Binary64
import ChatCommand.Text.Blank
import ChatCommand.Text.Named
import ChatCommand.Time.Calendar

namespace ChatCommand

/-! ### Units -/

/-- Whether fields are amounts or places in the calendar. -/
inductive TimeRule where
  | relative | definitive
deriving DecidableEq

/-- What a command does with a time: wait for it, last so long, or repeat. -/
inductive TimeUse where
  | unspecified | delay | period | interval
deriving DecidableEq

inductive TimeUnit where
  | second | minute | hour | day | week | month | year
deriving DecidableEq

inductive Meridiem where
  | am | pm
deriving DecidableEq

namespace TimeUnit

instance : Named TimeUnit where
  all := [second, minute, hour, day, week, month, year]
  name
    | second => "Second" | minute => "Minute" | hour => "Hour" | day => "Day"
    | week => "Week" | month => "Month" | year => "Year"

/-- The next smaller unit and how many of it make this one. A month counts as thirty days. -/
def smaller? : TimeUnit → Option (TimeUnit × Nat)
  | second => none
  | minute => some (second, 60)
  | hour => some (minute, 60)
  | day => some (hour, 24)
  | week => some (day, 7)
  | month => some (day, 30)
  | year => some (month, 12)

end TimeUnit

instance : Named Meridiem where
  all := [.am, .pm]
  name
    | .am => "Am" | .pm => "Pm"

/-! ### Patterns -/

/-- What a time expression says. A field that was not mentioned is `none`. -/
structure TimePattern where
  rule : TimeRule := .relative
  use : TimeUse := .unspecified
  year : Option Int64 := none
  month : Option Int64 := none
  day : Option Int64 := none
  weekday : Option Weekday := none
  hour : Option Int64 := none
  minute : Option Int64 := none
  second : Option Int64 := none
  /-- Days from today at which the calendar fields apply: "tomorrow at 17:30" has one. -/
  dayOffset : Option Int64 := none
deriving DecidableEq

/-- A pattern without its use: the times at which a command repeats. -/
structure IntervalSpec where
  rule : TimeRule
  year : Option Int64
  month : Option Int64
  day : Option Int64
  weekday : Option Weekday
  hour : Option Int64
  minute : Option Int64
  second : Option Int64
  dayOffset : Option Int64
deriving DecidableEq

namespace TimePattern

/-- An amount added to a field. -/
def plus (field : Option Int64) (amount : Int64) : Option Int64 :=
  some (field.getD 0 + amount)

/-- So many more of a unit, where a week is seven days. -/
def addUnit (p : TimePattern) (unit : TimeUnit) (amount : Int64) : TimePattern :=
  match unit with
  | .second => { p with second := plus p.second amount }
  | .minute => { p with minute := plus p.minute amount }
  | .hour => { p with hour := plus p.hour amount }
  | .day => { p with day := plus p.day amount }
  | .week => { p with day := plus p.day (amount * 7) }
  | .month => { p with month := plus p.month amount }
  | .year => { p with year := plus p.year amount }

/-- The distance from 1 to the next binary64 number. -/
def smallestStep : Float := Float.ofBits 0x3cb0000000000000

/-- So many of a unit. A fraction is rounded to whole numbers of the next smaller unit. -/
def relative (unit : TimeUnit) (amount : Float) : TimePattern :=
  let p := ({} : TimePattern).addUnit unit (truncateToInt64 amount)
  let fraction := fractionOf amount
  if smallestStep < fraction.abs then
    match unit.smaller? with
    | none => p
    | some (smaller, count) => p.addUnit smaller (roundToInt64 (fraction * Float.ofNat count))
  else p

/-- A pattern of the calendar that says nothing yet. -/
def definitive : TimePattern := { rule := .definitive }

/-- A time of day. -/
def clock (hour minute second : Int64) : TimePattern :=
  { rule := .definitive, hour := some hour, minute := some minute, second := some second }

def isRelative (p : TimePattern) : Bool :=
  p.rule = .relative

/-- The use of two patterns put together: they agree or one is unspecified. -/
def mergeUse? : TimeUse → TimeUse → Option TimeUse
  | a, .unspecified => some a
  | .unspecified, b => some b
  | a, b => if a = b then some a else none

/-- A field of two patterns put together: amounts add up, places in the calendar must agree. -/
def mergeField? (rule : TimeRule) : Option Int64 → Option Int64 → Option (Option Int64)
  | none, none => some none
  | some x, none => some (some x)
  | none, some y => some (some y)
  | some x, some y =>
    match rule with
    | .relative => some (some (x + y))
    | .definitive => if x = y then some (some x) else none

/-- The weekday of two patterns put together. -/
def mergeWeekday? : Option Weekday → Option Weekday → Option (Option Weekday)
  | some a, some b => if a = b then some (some a) else none
  | some a, none => some (some a)
  | none, b => some b

/-- A time of day on the day at the end of a span of whole days. -/
def anchor? (span time : TimePattern) (use : TimeUse) : Option TimePattern :=
  match span.day with
  | none => none
  | some days =>
    let wholeDays := span.year.isNone && span.month.isNone && span.hour.isNone
      && span.minute.isNone && span.second.isNone
    let timeOfDay := time.hour.isSome && time.year.isNone && time.month.isNone && time.day.isNone
      && time.weekday.isNone && time.dayOffset.isNone
    if 0 ≤ days.toInt ∧ wholeDays ∧ timeOfDay then
      some { rule := .definitive, use, hour := time.hour, minute := time.minute,
             second := time.second, dayOffset := some days }
    else none

/-- Two expressions about one moment or one span put together. Amounts add up, places in the
calendar must not conflict, and whole days from now set the day of a time of day. -/
def merge? (a b : TimePattern) : Option TimePattern :=
  match mergeUse? a.use b.use with
  | none => none
  | some use =>
    if a.rule = b.rule then do
      let weekday ← mergeWeekday? a.weekday b.weekday
      let year ← mergeField? a.rule a.year b.year
      let month ← mergeField? a.rule a.month b.month
      let day ← mergeField? a.rule a.day b.day
      let hour ← mergeField? a.rule a.hour b.hour
      let minute ← mergeField? a.rule a.minute b.minute
      let second ← mergeField? a.rule a.second b.second
      let dayOffset ← mergeField? a.rule a.dayOffset b.dayOffset
      some { rule := a.rule, use, year, month, day, weekday, hour, minute, second, dayOffset }
    else if a.isRelative then anchor? a b use
    else anchor? b a use

/-- The hour of a clock face, 1 to 12, put before or after noon. -/
def withMeridiem? (p : TimePattern) (m : Meridiem) : Option TimePattern :=
  match p.rule, p.hour with
  | .definitive, some hour =>
    if 1 ≤ hour.toInt ∧ hour.toInt ≤ 12 then
      match m with
      | .am => some { p with hour := some (hour % 12) }
      | .pm => some { p with hour := some (hour % 12 + 12) }
    else none
  | _, _ => none

/-- The pattern as the times at which a command repeats. -/
def interval (p : TimePattern) : IntervalSpec :=
  { rule := p.rule, year := p.year, month := p.month, day := p.day, weekday := p.weekday,
    hour := p.hour, minute := p.minute, second := p.second, dayOffset := p.dayOffset }

/-! ### Clock times -/

/-- The number of some ASCII digits, `none` if there are none or another character is among
them. -/
def readDigits? (s : List Char) : Option Nat :=
  if s.isEmpty then none
  else s.foldl (fun n? c => n?.bind fun n =>
    if c.isDigit then some (n * 10 + (c.toNat - '0'.toNat)) else none) (some 0)

/-- The integer of some digits behind an optional sign. -/
def readInteger? : List Char → Option Int
  | '+' :: digits => (readDigits? digits).map Int.ofNat
  | '-' :: digits => (readDigits? digits).map fun n : Nat => -(n : Int)
  | digits => (readDigits? digits).map Int.ofNat

/-- The integer of some digits behind an optional sign, if 64 bits hold it. -/
def readInt64? (field : List Char) : Option Int64 := do
  let n ← readInteger? field
  if -0x8000000000000000 ≤ n ∧ n ≤ 0x7fffffffffffffff then some (.ofInt n) else none

/-- The fields of a text between colons, the first of which began with `field` in reverse. -/
def colonFieldsFrom (field : List Char) : List Char → List (List Char)
  | [] => [field.reverse]
  | c :: rest =>
    if c = ':' then field.reverse :: colonFieldsFrom [] rest else colonFieldsFrom (c :: field) rest

/-- The fields of a text between colons. -/
def colonFields (s : List Char) : List (List Char) :=
  colonFieldsFrom [] s

/-- The time of day with these numbers, if there is one. -/
def clock? (hour minute second : Int64) : Option TimePattern :=
  if 0 ≤ hour.toInt ∧ hour.toInt < 24 ∧ 0 ≤ minute.toInt ∧ minute.toInt < 60
      ∧ 0 ≤ second.toInt ∧ second.toInt < 60 then
    some (clock hour minute second)
  else none

/-- Reads hours, minutes and perhaps seconds, with colons between them. -/
def parseClock? (text : String) : Option TimePattern :=
  match colonFields (Text.trim text.toList) with
  | [h, m] => do clock? (← readInt64? h) (← readInt64? m) 0
  | [h, m, s] => do clock? (← readInt64? h) (← readInt64? m) (← readInt64? s)
  | _ => none

end TimePattern

end ChatCommand

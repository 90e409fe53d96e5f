/-
The moment a spoken time points at, seen from now.

* `TimePattern.resolveRelative?`: now, plus the months and then the rest of the amounts;
* `TimePattern.resolveDefinitive?`: the first matching moment of the calendar, moved on by the
  smallest unit left open when it is not later than now;
* `TimePattern.resolve?`, `TimePattern.duration?`: the moment and the span up to it.
-/
import ChatCommand.Time.Instant
import ChatCommand.Time.Pattern

namespace ChatCommand

namespace TimePattern

/-- The longest span, in seconds. -/
def longestSpan : Int := 9223372036854775

/-- A span of whole seconds, unless it is longer than the longest. -/
def boundedSeconds? (seconds : Int) : Option Int :=
  if -longestSpan ≤ seconds ∧ seconds ≤ longestSpan then some seconds else none

/-- An amount that was not mentioned is 0. -/
def amount (field : Option Int64) : Int :=
  (field.getD 0).toInt

/-- The months of a pattern: twelve for each year, in 64 bits. -/
def months (p : TimePattern) : Int :=
  (p.year.getD 0 * 12 + p.month.getD 0).toInt

/-- The seconds of the days and smaller units of a pattern. No part and no partial sum may
exceed the longest span. -/
def seconds? (p : TimePattern) : Option Int := do
  let days ← boundedSeconds? (amount p.day * 86400)
  let hours ← boundedSeconds? (amount p.hour * 3600)
  let upToHours ← boundedSeconds? (days + hours)
  let minutes ← boundedSeconds? (amount p.minute * 60)
  let upToMinutes ← boundedSeconds? (upToHours + minutes)
  let seconds ← boundedSeconds? (amount p.second)
  boundedSeconds? (upToMinutes + seconds)

/-- Now, plus the months and then the rest of the amounts. -/
def resolveRelative? (p : TimePattern) (now : Instant) : Option Instant := do
  let inMonths ← now.addMonths? p.months
  inMonths.addSpan? (.ofSeconds (← p.seconds?))

/-- The time of day with these numbers, in nanoseconds. -/
def nanosOfClock? (hour minute second : Int) : Option Int :=
  if 0 ≤ hour ∧ hour < 24 ∧ 0 ≤ minute ∧ minute < 60 ∧ 0 ≤ second ∧ second < 60 then
    some ((hour * 3600 + minute * 60 + second) * nanosPerSecond)
  else none

/-- The day that the calendar fields are seen from: today or so many days on. -/
def startDay? (p : TimePattern) (now : Instant) : Option Int :=
  match p.dayOffset with
  | none => some now.day
  | some days => do
    discard (boundedSeconds? (days.toInt * 86400))
    let day := now.day + days.toInt
    if Date.firstDay ≤ day ∧ day ≤ Date.lastDay then some day else none

/-- The date of the calendar fields, with those of `today` for what was not mentioned. A month
without a day means its first. -/
def calendarDate? (p : TimePattern) (today : Date) : Option Date :=
  let year := (p.year.map Int64.toInt).getD today.year
  let month := (p.month.map Int64.toInt).getD today.month
  let day :=
    match p.day, p.month with
    | some d, _ => d.toInt
    | none, some _ => 1
    | none, none => (today.day : Int)
  if 0 ≤ month ∧ 0 ≤ day then Date.ofYmd? year month.toNat day.toNat else none

/-- The first matching moment that does not look at the time of now. -/
def candidate? (p : TimePattern) (now : Instant) : Option Instant := do
  let nanos ← nanosOfClock? (amount p.hour) (amount p.minute) (amount p.second)
  let date ← p.calendarDate? (Date.ofDays (← p.startDay? now))
  let day := date.toDays + (p.weekday.map (·.daysUntil date.toDays)).getD 0
  if day ≤ Date.lastDay then some (Instant.ofDay day nanos) else none

/-- The candidate, or the next one by the smallest unit left open if it is not later than now. A
given year and a day counted from today leave nothing open. -/
def resolveDefinitive? (p : TimePattern) (now : Instant) : Option Instant := do
  let first ← p.candidate? now
  if now < first then some first
  else if p.year.isSome ∨ p.dayOffset.isSome then none
  else if p.weekday.isSome then first.addSpan? (.ofSeconds (7 * 86400))
  else if p.month.isSome then first.addMonths? 12
  else if p.day.isSome then first.addMonths? 1
  else first.addSpan? (.ofSeconds 86400)

/-- The moment the pattern points at, seen from now. -/
def resolve? (p : TimePattern) (now : Instant) : Option Instant :=
  match p.rule with
  | .relative => p.resolveRelative? now
  | .definitive => p.resolveDefinitive? now

/-- The span from now to the moment the pattern points at. -/
def duration? (p : TimePattern) (now : Instant) : Option Span :=
  (p.resolve? now).map (·.since now)

end TimePattern

end ChatCommand

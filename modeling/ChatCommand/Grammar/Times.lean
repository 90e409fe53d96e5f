/-
Rules that build times and spans.

* `Times.unitAmount`, `Times.everyUnit`: amounts of a unit of time;
* `Times.hour?`: the hour of a number;
* `Times.hourMeridiem`, `Times.timeMeridiem`, `Times.atHour`: hours of the day;
* `Times.modified?`: the use that a word in front gives to a time;
* `Times.merge`: times beside each other;
* `Times.rules`: the rules themselves.
-/
import ChatCommand.Grammar.Rule

namespace ChatCommand

namespace Times

/-- The time a window comes to. -/
def result (b : Binding) (p : TimePattern) : Token :=
  b.produce .dateTime (some (.time p))

def unit? (t : Token) : Option TimeUnit :=
  match t.variant with
  | .timeUnit unit => some unit
  | _ => none

def meridiem? (t : Token) : Option Meridiem :=
  match t.variant with
  | .meridiem half => some half
  | _ => none

/-! ### Amounts -/

/-- How many a token says: a number, or one for "a" and "an". -/
def count? (t : Token) : Option Float :=
  match t.variant with
  | .article .indefinite => some 1.0
  | _ => t.number?

/-- So many of a unit. Amounts below zero are no times. -/
def unitAmount : State → Binding → Option Token := fun _ b =>
  match b.tokens with
  | [amount, unit] => do
    let count ← count? amount
    if count < 0.0 then none
    some (result b (.relative (← unit? unit) count))
  | _ => none

/-- One of a unit behind "every" is a time to repeat at. -/
def everyUnit : State → Binding → Option Token := fun _ b =>
  match b.tokens with
  | [word, unit] => do
    if word.variant ≠ .adjective .every then none
    some (result b { TimePattern.relative (← unit? unit) 1.0 with use := .interval })
  | _ => none

/-! ### Hours of the day -/

/-- The hour of a whole number from 0 to 23. -/
def hour? (x : Float) : Option Int64 :=
  if (Binary64.of x).isWhole && 0.0 ≤ x && x < 24.0 then some (truncateToInt64 x) else none

def hourMeridiem : State → Binding → Option Token := fun _ b =>
  match b.tokens with
  | [number, half] => do
    let hour ← hour? (← number.number?)
    let pattern ← (TimePattern.clock hour 0 0).withMeridiem? (← meridiem? half)
    some (result b pattern)
  | _ => none

def timeMeridiem : State → Binding → Option Token := fun _ b =>
  match b.tokens with
  | [time, half] => do
    let pattern ← (← time.time?).withMeridiem? (← meridiem? half)
    some (result b pattern)
  | _ => none

def atHour : State → Binding → Option Token := fun _ b =>
  match b.tokens with
  | [word, number] => do
    if word.variant ≠ .preposition .at then none
    let hour ← hour? (← number.number?)
    some (result b (.clock hour 0 0))
  | _ => none

/-! ### Uses -/

/-- A time behind a word. "in" makes it a delay, "for" a period, "every" an interval; "at" and "on"
leave it as it is, if it is a place in the calendar. A time has one use at most. -/
def modified? (word : TokenVariant) (p : TimePattern) : Option TimePattern :=
  if p.use ≠ .unspecified then none
  else
    match word with
    | .preposition .in => some { p with use := .delay }
    | .preposition .for => some { p with use := .period }
    | .adjective .every => some { p with use := .interval }
    | .preposition .at | .preposition .on => if p.isRelative then none else some p
    | _ => none

def modify : State → Binding → Option Token := fun _ b =>
  match b.tokens with
  | [word, time] => do
    let pattern ← modified? word.variant (← time.time?)
    some (result b pattern)
  | _ => none

/-! ### Times beside each other -/

/-- The first and the last argument as one time. -/
def merge : State → Binding → Option Token := fun _ b => do
  let left ← (← b.tokens.head?).time?
  let right ← (← b.tokens.getLast?).time?
  let pattern ← left.merge? right
  some (result b pattern)

/-! ### The rules -/

def rule (signature : Signature) (outcome : State → Binding → Option Token) : Rule :=
  { tier := .general, signature, outcome }

def rules : List Rule := [
  rule { id := "unit-amount", parameters := [.only .number, .timeUnit] } unitAmount,
  rule { id := "unit-article", parameters := [.only (.article .indefinite), .timeUnit] }
    unitAmount,
  rule { id := "hour-meridiem", parameters := [.only .number, .meridiem] } hourMeridiem,
  rule { id := "time-meridiem", parameters := [.only .dateTime, .meridiem] } timeMeridiem,
  rule { id := "at-hour", parameters := [.preposition, .only .number] } atHour,
  rule { id := "time-modifier", parameters := [.functionWord, .only .dateTime] } modify,
  rule { id := "every-unit", parameters := [.adjective, .timeUnit] } everyUnit,
  rule { id := "time-time", parameters := [.only .dateTime, .only .dateTime]
         exactTypes := true } merge,
  rule { id := "time-and-time"
         parameters := [.only .dateTime, .only (.logical .and), .only .dateTime]
         exactTypes := true } merge]

end Times

end ChatCommand

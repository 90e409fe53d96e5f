/-
Spoken times as data.

* `TimePattern.ofDatum?`: the pattern of a record, where a field that is not given says nothing;
* `Weekday.ofName?`: a day of the week by its full or abbreviated name, in any case.
-/
import ChatCommand.Data.Datum
import ChatCommand.Time.Pattern

namespace ChatCommand

/-- The day of a full or abbreviated name, whatever the case of its letters. -/
def Weekday.ofName? (name : String) : Option Weekday :=
  all.find? fun day =>
    Text.equalsIgnoringAsciiCase name day.abbreviation
      || Text.equalsIgnoringAsciiCase name day.fullName

/-- A constant by its name, or as the one key of a table that gives it nothing. -/
def Datum.constant? {α : Type} (constants : List (String × α)) : Datum → Option α
  | .text name => constants.lookup name
  | .table [(.text name, .null)] => constants.lookup name
  | _ => none

namespace TimePattern

def fieldNames : List String :=
  ["rule", "modifier", "year", "month", "day", "day_of_week", "hour", "minute", "second",
    "day_offset"]

def ruleNames : List (String × TimeRule) :=
  [("relative", .relative), ("definitive", .definitive)]

def useNames : List (String × TimeUse) :=
  [("none", .unspecified), ("delay", .delay), ("period", .period), ("interval", .interval)]

/-- The pattern of a record. -/
def ofDatum? (d : Datum) : Option TimePattern := do
  let fields ← d.fields? fieldNames
  let amount? (name : String) := fields.optional? name none (Datum.orNull? Datum.int64?)
  some {
    rule := ← fields.optional? "rule" .relative (Datum.constant? ruleNames)
    use := ← fields.optional? "modifier" .unspecified (Datum.constant? useNames)
    year := ← amount? "year"
    month := ← amount? "month"
    day := ← amount? "day"
    weekday := ← fields.optional? "day_of_week" none
      (Datum.orNull? fun d => d.plainText?.bind Weekday.ofName?)
    hour := ← amount? "hour"
    minute := ← amount? "minute"
    second := ← amount? "second"
    dayOffset := ← amount? "day_offset" }

end TimePattern

end ChatCommand

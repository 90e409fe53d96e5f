/-
The vocabulary of English chat about a game.

* `Catalog.builtin`: numbers, quotations, times, function words, operators and the words for things
  of a game.
-/
import ChatCommand.Vocabulary.Catalog

namespace ChatCommand

namespace Vocabulary

/-! ### Kinds of entries -/

/-- Words that stand for something with a name. -/
def named (words : List (String × String)) : List Entry :=
  words.map fun (word, name) => { literal := some word, name := some name }

/-- Words with a value. -/
def valued (words : List (String × Datum)) : List Entry :=
  words.map fun (word, value) => { literal := some word, value := some value }

/-- An expression for a whole span with a part that is its value: what stands before, the value and
what stands behind. -/
def expression (before value behind : Regex) : Entry :=
  { expression := some (.sequence
      [.textStart, before, .group (some "value") value, behind, .textEnd]) }

/-! ### Literals -/

/-- A number in digits: a sign, digits, and a point with digits. -/
def digitsExpression : Entry :=
  expression .empty
    (.sequence [.optional (.literal '-'), .many .digit,
      .optional (.sequence [.literal '.', .many .digit])])
    .empty

/-- A text between double quotes. -/
def quotedExpression : Entry :=
  expression (.literal '"') (.repeated 0 none true (.char (CharSet.singleton '"').complement)) (.literal '"')

/-- Hours and minutes, perhaps with seconds, with colons between them. -/
def clockExpression : Entry :=
  let twoDigits : Regex := .times 2 .digit
  expression .empty
    (.sequence [.repeated 1 (some 2) true .digit, .literal ':', twoDigits,
      .optional (.sequence [.literal ':', twoDigits])])
    .empty

/-- Number words. -/
def numberWords : List (String × Nat) := [
  ("zero", 0), ("one", 1), ("two", 2), ("three", 3), ("four", 4), ("five", 5), ("six", 6),
  ("seven", 7), ("eight", 8), ("nine", 9), ("ten", 10), ("eleven", 11), ("twelve", 12),
  ("thirteen", 13), ("fourteen", 14), ("fifteen", 15), ("sixteen", 16), ("seventeen", 17),
  ("eighteen", 18), ("nineteen", 19), ("twenty", 20), ("thirty", 30), ("forty", 40),
  ("fifty", 50), ("sixty", 60), ("seventy", 70), ("eighty", 80), ("ninety", 90), ("hundred", 100),
  ("thousand", 1000), ("million", 1000000), ("dozen", 12)]

/-- The amounts of a time, by field. -/
def amounts (fields : List (String × Int)) : Datum :=
  .table (fields.map fun (field, amount) => (.text field, .integer amount))

/-- Places of a time in the calendar, by field. -/
def places (fields : List (String × Datum)) : Datum :=
  .table ((.text "rule", .text "definitive") ::
    fields.map fun (field, place) => (.text field, place))

def timeOfDay (hour : Int) : Datum :=
  places [("hour", .integer hour), ("minute", .integer 0), ("second", .integer 0)]

def dayOfWeek (abbreviation : String) : Datum :=
  places [("day_of_week", .text abbreviation)]

def monthOfYear (month : Int) : Datum :=
  places [("month", .integer month)]

/-- Words for times. The month of May is missing, since "may" is a verb. -/
def timeWords : List (String × Datum) := [
  ("now", amounts [("second", 0)]), ("today", amounts [("day", 0)]),
  ("tomorrow", amounts [("day", 1)]), ("tonight", timeOfDay 20), ("noon", timeOfDay 12),
  ("midday", timeOfDay 12), ("midnight", timeOfDay 0), ("monday", dayOfWeek "Mon"),
  ("tuesday", dayOfWeek "Tue"), ("wednesday", dayOfWeek "Wed"), ("thursday", dayOfWeek "Thu"),
  ("friday", dayOfWeek "Fri"), ("saturday", dayOfWeek "Sat"), ("sunday", dayOfWeek "Sun"),
  ("january", monthOfYear 1), ("february", monthOfYear 2), ("march", monthOfYear 3),
  ("april", monthOfYear 4), ("june", monthOfYear 6), ("july", monthOfYear 7),
  ("august", monthOfYear 8), ("september", monthOfYear 9), ("october", monthOfYear 10),
  ("november", monthOfYear 11), ("december", monthOfYear 12)]

/-- The literals: numbers, quoted texts, times and their units. -/
def literals : Family → List Entry
  | .numeric => digitsExpression :: valued (numberWords.map fun (word, n) => (word, .integer n))
  | .quotedText => [quotedExpression]
  | .dateTime => clockExpression :: valued timeWords
  | .timeUnit => named [
    ("second", "Second"), ("sec", "Second"), ("minute", "Minute"), ("min", "Minute"),
    ("hour", "Hour"), ("hr", "Hour"), ("day", "Day"), ("week", "Week"), ("month", "Month"),
    ("year", "Year")]
  | .meridiem => named [
    ("am", "Am"), ("pm", "Pm")]
  | _ => []

/-! ### Function words and operators -/

/-- Marks and function words. -/
def functionWords : Family → List Entry
  | .punctuation => named [
    (",", "Comma"), (".", "Period"), (":", "Colon"), ("?", "QuestionMark"),
    ("!", "ExclamationMark")]
  | .article => named [
    ("the", "Definite"), ("a", "Indefinite"), ("an", "Indefinite")]
  | .preposition => named [
    ("in", "In"), ("within", "In"), ("for", "For"), ("at", "At"), ("by", "By"), ("to", "To"),
    ("with", "With"), ("from", "From"), ("on", "On"), ("of", "Of"), ("than", "Than"),
    ("except", "Except"), ("excluding", "Except"), ("but", "Except")]
  | .adjective => named [
    ("every", "Every"), ("each", "Every"), ("next", "Next"), ("last", "Last"), ("this", "This"),
    ("all", "All")]
  | .typography => named [
    ("'s", "Possessive"), ("'", "Quotation"), ("@", "Mention")]
  | _ => []

/-- Operators by sign and by word. -/
def operators : Family → List Entry
  | .arithmetic => named [
    ("(", "OpenParenthesis"), (")", "CloseParenthesis"), ("*", "Multiplication"),
    ("x", "Multiplication"), ("times", "Multiplication"), ("multiplied", "Multiplication"),
    ("/", "Division"), ("divided", "Division"), ("over", "Division"), ("^", "Power"),
    ("power", "Power"), ("+", "Addition"), ("plus", "Addition"), ("-", "Subtraction"),
    ("minus", "Subtraction")]
  | .logical => named [
    ("and", "And"), ("&", "And"), ("&&", "And"), ("or", "Or"), ("||", "Or"), ("not", "Not")]
  | .equality => named [
    ("=", "Equals"), ("==", "Equals"), ("is", "Equals"), ("equals", "Equals"),
    ("!=", "NotEquals"), (">", "GreaterThan"), ("greater", "GreaterThan"),
    ("more", "GreaterThan"), ("above", "GreaterThan"), (">=", "GreaterThanOrEqual"),
    ("<", "LessThan"), ("less", "LessThan"), ("fewer", "LessThan"), ("below", "LessThan"),
    ("under", "LessThan"), ("<=", "LessThanOrEqual")]
  | _ => []

/-! ### Objects -/

/-- Groups of things, properties of players, and the speaker. -/
def objects : Family → List Entry
  | .thing => named [
    ("players", "Players"), ("everyone", "Players"), ("everybody", "Players"), ("maps", "Maps"),
    ("items", "Items"), ("weapons", "Items")]
  | .numericProperty => named [
    ("ping", "Ping"), ("latency", "Ping"), ("score", "Score"), ("points", "Score"),
    ("kills", "Kills"), ("frags", "Kills"), ("deaths", "Deaths"), ("kdr", "Kdr")]
  | .selfReflection => named [
    ("me", "Self"), ("myself", "Self"), ("i", "Self")]
  | _ => []

end Vocabulary

open Vocabulary in
/-- The vocabulary of English chat about a game. -/
def Catalog.builtin : Catalog where
  entries family :=
    match family.stage with
    | .primitive => literals family
    | .functionWord => functionWords family
    | .operator => operators family
    | .object => objects family
    | .reduction => []

end ChatCommand

/-
Reading words of the vocabulary.

* `Reading`: makes a token of an entry and the span it matches, or drops it;
* `Family.reading`: the reading of the entries of a family, by their name, their value, or the text
  that their expression captured.
-/
import ChatCommand.Decimal.Reader
import ChatCommand.Roster.State
import ChatCommand.Time.Record
import ChatCommand.Token.Basic
import ChatCommand.Vocabulary.Catalog

namespace ChatCommand

/-- Makes a token of a hit. `none` drops the hit. -/
abbrev Reading := Hit → State → Option Token

namespace Hit

/-- A token for the span of a hit, under the name of the entry. -/
def token (hit : Hit) (variant : TokenVariant) (value : Option Value := none) : Token :=
  { text := hit.text, name := hit.entry.name, variant, value, similarity := hit.similarity }

/-- The number captured, or the value of the entry if nothing was captured. -/
def number? (hit : Hit) : Option Float :=
  match hit.captured with
  | some text => readNumber? text
  | none => hit.entry.value.bind Datum.number?

/-- The clock time captured, or the value of the entry if nothing was captured. -/
def time? (hit : Hit) : Option TimePattern :=
  match hit.captured with
  | some text => TimePattern.parseClock? text
  | none => hit.entry.value.bind TimePattern.ofDatum?

end Hit

namespace Reading

/-- Entries that name a constant. -/
def constant {α : Type} [Named α] (variant : α → TokenVariant) : Reading := fun hit _ => do
  let a ← Named.ofName? α (← hit.entry.name)
  some (hit.token (variant a))

def number : Reading := fun hit _ =>
  hit.number?.map fun x => hit.token .number (some (.number x))

def quotedText : Reading := fun hit _ =>
  hit.captured.map fun text => hit.token .quotedText (some (.text text))

def time : Reading := fun hit _ =>
  hit.time?.map fun p => hit.token .dateTime (some (.time p))

/-- Everything of a kind that there is. -/
def everything (state : State) : ThingKind → Value
  | .player => .players state.players
  | .map => .maps state.maps
  | .item => .items state.items
  | .location => .locations state.countries

/-- Entries that name a kind of things stand for all things of that kind. -/
def group : Reading := fun hit state => do
  let kind ← Named.ofName? ThingKind (← hit.entry.name)
  some (hit.token (.thing kind) (some (everything state kind)))

def speaker : Reading := fun hit _ => some (hit.token .selfReflection)

end Reading

/-- The reading of the entries of a family. -/
def Family.reading : Family → Reading
  | numeric => .number
  | quotedText => .quotedText
  | dateTime => .time
  | timeUnit => .constant TokenVariant.timeUnit
  | meridiem => .constant TokenVariant.meridiem
  | punctuation => .constant TokenVariant.punctuation
  | article => .constant TokenVariant.article
  | preposition => .constant TokenVariant.preposition
  | adjective => .constant TokenVariant.adjective
  | typography => .constant TokenVariant.typography
  | arithmetic => .constant TokenVariant.arithmetic
  | logical => .constant TokenVariant.logical
  | equality => .constant TokenVariant.equality
  | thing => .group
  | numericProperty => .constant TokenVariant.numericProperty
  | selfReflection => .speaker

end ChatCommand

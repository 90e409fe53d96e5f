/-
What the console shows.

* `Render.players`, `Render.maps`, `Render.items`, `Render.commands`: lists of what there is;
* `Render.interval`: the times at which a command repeats, field by field;
* `Render.commandMatch`: a match, one line for each part that is not empty;
* `Render.help`, `Render.error`: the help text and the line for an error.
-/
import ChatCommand.Decimal.Shortest
import ChatCommand.Recognition.Match
import ChatCommand.Time.Timestamp

namespace ChatCommand

namespace Render

/-! ### Lists -/

/-- Entries in lines of their own. -/
def list (entries : List String) : String :=
  if entries.isEmpty then "  (none)" else "\n".intercalate (entries.map ("  " ++ ·))

def joined (entries : List String) : String := ", ".intercalate entries

def player (p : Player) : String :=
  p.name ++ " (" ++ p.countryName ++ ", ping " ++ toString p.ping.toNat ++ ", score "
    ++ toString p.score.toInt ++ ", " ++ toString p.kills.toNat ++ "/" ++ toString p.deaths.toNat
    ++ ")"

def map (m : Map) : String :=
  m.friendlyName ++ " (" ++ m.name ++ ", " ++ m.gameMode ++ ")"

def item (i : Item) : String :=
  i.friendlyName ++ " (" ++ i.name ++ ") [" ++ joined i.tags ++ "]"

def command (c : TextCommand) : String :=
  c.canonicalName ++ " (priority " ++ toString c.priority.toInt ++ "): " ++ joined c.aliases

def players (state : State) : String := list (state.players.map player)

def maps (state : State) : String := list (state.maps.map map)

def items (state : State) : String := list (state.items.map item)

def commands (state : State) : String := list (state.commands.map command)

/-! ### Matches -/

/-- A field of a record that may be missing. -/
def perhaps {α : Type} (text : α → String) : Option α → String
  | none => "None"
  | some a => "Some(" ++ text a ++ ")"

def rule : TimeRule → String
  | .relative => "Relative"
  | .definitive => "Definitive"

/-- The times at which a command repeats, field by field. -/
def interval (i : IntervalSpec) : String :=
  let amount (field : Option Int64) := perhaps (fun n => toString (Int64.toInt n)) field
  "IntervalSpec \x7b " ++ joined [
    "rule: " ++ rule i.rule,
    "year: " ++ amount i.year,
    "month: " ++ amount i.month,
    "day: " ++ amount i.day,
    "day_of_week: " ++ perhaps Weekday.abbreviation i.weekday,
    "hour: " ++ amount i.hour,
    "minute: " ++ amount i.minute,
    "second: " ++ amount i.second,
    "day_offset: " ++ amount i.dayOffset] ++ " \x7d"

/-- A label in a column of eleven characters, and what it labels. -/
def labelled (label text : String) : String :=
  let head := label ++ ":"
  head ++ String.ofList (List.replicate (10 - head.length) ' ') ++ " " ++ text

/-- A line for a list of values, if there are any. -/
def values (label : String) (entries : List String) : Option String :=
  if entries.isEmpty then none else some (labelled label (joined entries))

/-- A match, one line for each part that is not empty. -/
def commandMatch (m : CommandMatch) : String :=
  let first := (m.command?.map fun c => labelled "command" (m.mark ++ c.canonicalName)).getD ""
  let rest : List (Option String) := [
    values "or maybe" (m.alternates.map (·.canonicalName)),
    m.speaker.map fun p => labelled "speaker" p.name,
    values "players" (m.players.map (·.name)),
    values "maps" (m.maps.map (·.friendlyName)),
    values "items" (m.items.map (·.friendlyName)),
    values "numbers" (m.numbers.map showNumber),
    values "quotes" (m.quotes.map fun q => "\"" ++ q ++ "\""),
    m.delay.map fun i => labelled "delay" (Timestamp.writeSeconds i ++ " UTC"),
    m.period.map fun s => labelled "period" (toString s.seconds ++ "s"),
    m.interval.map fun i => labelled "interval" (interval i)]
  "\n".intercalate (first :: rest.filterMap id)

/-! ### Help and errors -/

def help : String :=
  "\n".intercalate [
    "Type free text to parse it as a player command, e.g. `kick phogue`.",
    "",
    "  :players           List connected players",
    "  :maps              List maps",
    "  :items             List items",
    "  :commands          List commands and aliases",
    "  :speaker [name]    Show or change who is speaking",
    "  :load <path>       Load a snapshot (.json or .msgpack)",
    "  :save <path>       Save the snapshot",
    "  :quit              Exit"]

/-- A text in red. -/
def red (text : String) : String := "\x1b[31m" ++ text ++ "\x1b[0m"

/-- The line for an error, with where it arose. -/
def error (e : Error) : String :=
  let place := e.context.map fun c => " (" ++ c.describe ++ ")"
  red ("Error: " ++ e.message ++ place.getD "")

end Render

end ChatCommand

/-
The state of a server while one input is read.

* `State`: who speaks, who and what there is, and the time;
* `State.withSpeaker?`: the state with the player of some name speaking;
* `State.longestName`, `State.countries`: what names are measured against;
* `State.command?`, `State.commandByAlias?`: commands by name and by words.
-/
import ChatCommand.Error
import ChatCommand.Roster.Entity
import ChatCommand.Time.Instant

namespace ChatCommand

/-- All that may be looked at while an input is read. -/
structure State where
  /-- Who typed the input, if it was a player. -/
  speaker : Option Player := none
  players : List Player := []
  maps : List Map := []
  items : List Item := []
  commands : List TextCommand := []
  /-- When the input came in. -/
  now : Instant
deriving DecidableEq

namespace State

/-- The first player of this name, whatever the case of its letters. -/
def playerNamed? (s : State) (name : String) : Option Player :=
  s.players.find? fun p => Text.equalsIgnoringAsciiCase p.name name

/-- The state with the player of this name speaking. -/
def withSpeaker? (s : State) (name : String) : Except Error State :=
  match s.playerNamed? name with
  | some p => .ok { s with speaker := some p }
  | none => .error { fault := .unknownEntity "player" name }

/-- The length of the longest name of a player, in characters. -/
def longestName (s : State) : Nat :=
  (s.players.map Player.nameLength).foldl max 0

/-- The countries players come from, each once, in the order of the players. -/
def countries (s : State) : List String :=
  s.players.foldl (fun seen p =>
    if p.countryName.isEmpty || seen.contains p.countryName then seen
    else seen ++ [p.countryName]) []

def command? (s : State) (canonicalName : String) : Option TextCommand :=
  s.commands.find? fun c => c.canonicalName == canonicalName

/-- The first command that these words call. -/
def commandByAlias? (s : State) (words : String) : Option TextCommand :=
  s.commands.find? (·.hasAlias words)

end State

end ChatCommand

/-
What an input asks for.

* `CommandMatch`: commands with everything they were said about;
* `CommandMatch.absorb`: one more token of the sentence;
* `CommandMatch.assemble`: all preferred tokens of a sentence.
-/
import ChatCommand.Grammar.Things
import ChatCommand.Sentence.Basic
import ChatCommand.Time.Resolution

namespace ChatCommand

/-- Commands with everything they were said about. -/
structure CommandMatch where
  /-- The mark the input arrived with, such as `!`. -/
  mark : String
  /-- The command meant, then those that may have been meant instead. -/
  commands : List TextCommand
  speaker : Option Player
  players : List Player := []
  maps : List Map := []
  items : List Item := []
  /-- Numbers in the order of the input. -/
  numbers : List Float := []
  /-- Quoted texts without their quotes. -/
  quotes : List String := []
  /-- When to carry out the command. -/
  delay : Option Instant := none
  /-- How long the command lasts. -/
  period : Option Span := none
  /-- How often to repeat the command. -/
  interval : Option IntervalSpec := none

namespace CommandMatch

/-- The command meant. -/
def command? (m : CommandMatch) : Option TextCommand := m.commands.head?

/-- The commands that may have been meant instead. -/
def alternates (m : CommandMatch) : List TextCommand := m.commands.tail

/-- With more players, each once. -/
def addPlayers (m : CommandMatch) (players : List Player) : CommandMatch :=
  { m with players := unionBy samePlayer m.players players }

/-- The players from one of some countries. -/
def playersFrom (state : State) (countries : List String) : List Player :=
  state.players.filter fun p => countries.any (sameLocation p.countryName)

/-- With a time, unless there is one of its use already. A time without a use is a period. -/
def addTime (m : CommandMatch) (now : Instant) (p : TimePattern) : CommandMatch :=
  match p.use with
  | .delay => if m.delay.isNone then { m with delay := p.resolve? now } else m
  | .period | .unspecified => if m.period.isNone then { m with period := p.duration? now } else m
  | .interval => if m.interval.isNone then { m with interval := some p.interval } else m

/-- With the meaning of one more token. -/
def absorb (state : State) (m : CommandMatch) (t : Token) : CommandMatch :=
  match t.variant, t.value with
  | .thing .player, some (.players list) => m.addPlayers list
  | .selfReflection, _ => m.addPlayers state.speaker.toList
  | .thing .location, some (.locations countries) => m.addPlayers (playersFrom state countries)
  | .thing .map, some (.maps list) => { m with maps := unionBy sameMap m.maps list }
  | .thing .item, some (.items list) => { m with items := unionBy sameItem m.items list }
  | .number, some (.number x) => { m with numbers := m.numbers ++ [x] }
  | .quotedText, some (.text s) => { m with quotes := m.quotes ++ [s] }
  | .dateTime, some (.time p) => m.addTime state.now p
  | _, _ => m

/-- Some commands with the meaning of the preferred tokens of a sentence. -/
def assemble (mark : String) (commands : List TextCommand) (s : Sentence) (state : State) :
    CommandMatch :=
  (s.filterMap Phrase.best?).foldl (absorb state) { mark, commands, speaker := state.speaker }

end CommandMatch

end ChatCommand

/-
Sessions at the console.

* `Session`: a parser, the state it reads against, and the mark of its inputs;
* `Session.completions`: the words that the console completes;
* `Session.parse`: the match of an input, at the time of the clock unless that is frozen.
-/
import ChatCommand.Console.Host
import ChatCommand.Recognition.Parser

namespace ChatCommand

/-- A parser, the state it reads against, and the mark of its inputs. -/
structure Session where
  parser : Parser
  state : State
  mark : String := "!"
  /-- Whether inputs are read at the time of the state instead of that of the clock. -/
  frozen : Bool := false

namespace Session

/-- Sorted words without repeats next to each other. -/
def dropRepeats : List String → List String
  | a :: b :: rest => if a = b then dropRepeats (b :: rest) else a :: dropRepeats (b :: rest)
  | words => words

/-- The words of commands and the names of players and maps, sorted, each once. -/
def completions (s : Session) : List String :=
  let words := s.state.commands.flatMap (·.aliases)
    ++ s.state.players.map (fun p => Text.lowercase p.strippedName)
    ++ s.state.maps.map (fun m => Text.lowercase m.friendlyName)
  dropRepeats (words.mergeSort fun a b => !decide (b < a))

/-- The session at another time. -/
def atTime (s : Session) (now : Instant) : Session :=
  if s.frozen then s else { s with state := { s.state with now } }

/-- The match of an input, if it calls a command. -/
def parse (s : Session) (text : String) : Except Error (Option CommandMatch) :=
  s.parser.parse s.mark text s.state

end Session

end ChatCommand

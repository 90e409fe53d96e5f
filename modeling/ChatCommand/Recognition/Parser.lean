/-
From an input to the command it asks for.

* `Parser`: vocabulary, grammar and configuration;
* `Parser.context`: what the sentences of an input are read with;
* `Parser.parse`: the match of an input, if it calls a command.
-/
import ChatCommand.Grammar.Standard
import ChatCommand.Recognition.Commands
import ChatCommand.Recognition.Match
import ChatCommand.Recognition.Names
import ChatCommand.Sentence.Parse
import ChatCommand.Vocabulary.Builtin

namespace ChatCommand

/-- Everything about reading inputs that does not change from one to the next. -/
structure Parser where
  catalog : Catalog := .builtin
  grammar : Grammar := .standard
  config : Config := {}

namespace Parser

/-- What the sentences of an input are read with. -/
def context (p : Parser) (state : State) : Context where
  grammar := p.grammar
  catalog := p.catalog
  state := state
  recognizers := [Names.recognizer p.config.thresholds]
  budget := p.config.stepLimit

/-- The match of a sentence that has gone through all stages, if it calls a command. -/
def parseRead (p : Parser) (mark : String) (state : State) (s : Sentence) :
    Except Fault (Option CommandMatch) :=
  let (commands, rest) := Commands.extract p.config.thresholds state s
  if commands.isEmpty then .ok none
  else
    let reduced := rest.reduce (p.context state)
    match reduced.fault? with
    | some fault => .error fault
    | none => .ok (some (.assemble mark commands reduced.sentence state))

/-- The match of some words, if they call a command. -/
def parseWords (p : Parser) (mark : String) (state : State) (words : List String) :
    Except Fault (Option CommandMatch) :=
  if words.isEmpty then .ok none
  else if p.config.wordLimit < words.length then
    .error (.inputTooLong words.length p.config.wordLimit)
  else
    let read := (Sentence.ofWords words).readStages (p.context state)
    match read.fault? with
    | some fault => .error fault
    | none => p.parseRead mark state read.sentence

/-- The match of an input, if it calls a command. -/
def parse (p : Parser) (mark text : String) (state : State) :
    Except Error (Option CommandMatch) :=
  (p.parseWords mark state (splitWords text)).mapError (Error.parsing text)

end Parser

end ChatCommand

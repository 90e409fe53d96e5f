/-
What a sentence is read with.

* `Recognizer`: recognizes spans that no vocabulary holds, such as the names of players;
* `Context`: grammar, vocabulary, state, recognizers and the budget of steps;
* `Context.tokensFor`: the tokens of a span in one stage;
* `Context.tokenizeText`: a span with the tokens of all stages up to one.
-/
import ChatCommand.Grammar.Basic

namespace ChatCommand

/-- The tokens of a span in a stage, seen from a state. -/
abbrev Recognizer := State → Stage → String → List Token

/-- Everything a sentence is read with. -/
structure Context where
  grammar : Grammar
  catalog : Catalog
  state : State
  /-- Asked after the vocabulary, in order. -/
  recognizers : List Recognizer := []
  /-- How many steps each loop may take. -/
  budget : Nat := 512

namespace Context

/-- The tokens that the words of a family give a span. -/
def familyTokens (ctx : Context) (text : String) (family : Family) : List Token :=
  match ctx.grammar.reading? family with
  | none => []
  | some reading => (ctx.catalog.hits family text).filterMap fun hit => reading hit ctx.state

/-- The tokens of a span in one stage: those of the families of the stage, then those of the
recognizers. -/
def tokensFor (ctx : Context) (stage : Stage) (text : String) : List Token :=
  (Family.all.filter fun f => f.stage = stage).flatMap (ctx.familyTokens text)
    ++ ctx.recognizers.flatMap fun recognize => recognize ctx.state stage text

/-- A phrase with its tokens of one more stage. -/
def readPhrase (ctx : Context) (p : Phrase) (stage : Stage) : Phrase :=
  p.extend (ctx.tokensFor stage p.text)

/-- A span with the tokens of all stages up to one. -/
def tokenizeText (ctx : Context) (through : Stage) (text : String) : Phrase :=
  through.upTo.foldl ctx.readPhrase { text }

end Context

end ChatCommand

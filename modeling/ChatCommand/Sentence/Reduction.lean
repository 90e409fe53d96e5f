/-
Reducing a sentence by the rules of the grammar.

* `Sentence.withoutUnread`: the phrases in which something has been read;
* `Sentence.findReduction?`: the first rule that applies, by tier, then by the number of phrases,
  then from left to right, then by the order of the rules;
* `Sentence.reduce`: applies rules until none applies.
-/
import ChatCommand.Sentence.Basic
import ChatCommand.Sentence.Repetition

namespace ChatCommand

namespace Sentence

/-- The phrases in which something has been read. -/
def withoutUnread (s : Sentence) : Sentence :=
  s.filter fun p => !p.isUnread

/-- The first of some rules that applies at a place, with what it makes of the phrases there. -/
def reductionAt? (state : State) (rules : List Rule) (s : Sentence) (count offset : Nat) :
    Option Splice :=
  let window := s.window offset count
  (rules.findSome? (·.token? state window)).map fun token =>
    { offset, count, phrase := .ofToken (joinText window) token }

/-- The first reduction by rules of a tier that take so many phrases. -/
def reductionBy? (ctx : Context) (s : Sentence) (tier : Tier) (count : Nat) : Option Splice :=
  let rules := ctx.grammar.rulesOf tier count
  (s.offsets count).findSome? (reductionAt? ctx.state rules s count)

/-- The first reduction: by tier, then by the number of phrases, then from left to right, then by
the order of the rules. -/
def findReduction? (ctx : Context) (s : Sentence) : Option Splice :=
  Tier.all.findSome? fun tier =>
    (ctx.grammar.windowLengths tier).findSome? (reductionBy? ctx s tier)

/-- The sentence after the first reduction. -/
def reductionStep? (ctx : Context) (s : Sentence) : Option Sentence :=
  (s.findReduction? ctx).map s.splice

/-- Drops what has not been read, and applies rules until none applies. -/
def reduce (ctx : Context) (s : Sentence) : Progress :=
  .ofRun .reduce ctx.budget
    (Repetition.run (reductionStep? ctx) ctx.budget s.withoutUnread)

end Sentence

end ChatCommand

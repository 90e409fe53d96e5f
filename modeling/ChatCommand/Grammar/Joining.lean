/-
Rules that join pieces of one thing.

* `Joining.unite`, `Joining.narrow`: things listed beside each other, or a group beside one of its
  members;
* `Joining.withSpeaker`: a player and the speaker;
* `Joining.keepFirst`, `Joining.keepLast`: words that add nothing, such as "the" or "than";
* `Joining.rules`: the rules themselves.
-/
import ChatCommand.Grammar.Rule
import ChatCommand.Grammar.Things

namespace ChatCommand

namespace Joining

/-! ### Lists of things -/

/-- The things of the first and the last argument. -/
def unite : State → Binding → Option Token := fun _ b => do
  let (left, right) ← (match b.tokens with | [l, _, r] => some (l, r) | _ => none)
  let value ← (← left.value).union? (← right.value)
  some (b.produce left.variant (some value))

/-- What two neighbours mean together: the smaller if one holds the other, else both. -/
def narrow? (a b : Value) : Option Value :=
  if b.isSubset a then some b else if a.isSubset b then some a else a.union? b

/-- A group beside one of its members is the member, other neighbours are a list. -/
def narrow : State → Binding → Option Token := fun _ b => do
  let (left, right) ← (match b.tokens with | [l, r] => some (l, r) | _ => none)
  let value ← narrow? (← left.value) (← right.value)
  some (b.produce left.variant (some value))

/-- Players and the speaker. -/
def withSpeaker : State → Binding → Option Token := fun state b => do
  let (left, right) ← (match b.tokens with | [l, _, r] => some (l, r) | _ => none)
  let players ← left.meantPlayers? state.speaker
  let speaker ← right.meantPlayers? state.speaker
  some (b.produce (.thing .player) (some (.players (unionBy samePlayer players speaker))))

/-! ### Words that add nothing -/

/-- The first argument without its value. -/
def keepFirst : State → Binding → Option Token := fun _ b => do
  let first ← b.tokens.head?
  some { b.produce first.variant none with name := first.name }

/-- The last argument. -/
def keepLast : State → Binding → Option Token := fun _ b => do
  let last ← b.tokens.getLast?
  some { b.produce last.variant last.value with name := last.name }

/-- The last argument behind "all", "every" or "this". -/
def keepQuantified : State → Binding → Option Token := fun state b => do
  match (← b.tokens.head?).variant with
  | .adjective .all | .adjective .every | .adjective .this => keepLast state b
  | _ => none

/-! ### The rules -/

def rule (signature : Signature) (outcome : State → Binding → Option Token) : Rule :=
  { tier := .joining, signature, outcome }

def rules : List Rule := [
  rule { id := "thing-and-thing"
         parameters := [.thing, .only (.logical .and), .thing], compatible := true } unite,
  rule { id := "thing-comma-thing"
         parameters := [.thing, .only (.punctuation .comma), .thing], compatible := true } unite,
  rule { id := "player-and-self"
         parameters := [.only (.thing .player), .only (.logical .and), .only .selfReflection]
         exactTypes := true, anyOrder := true, compatible := true } withSpeaker,
  rule { id := "thing-thing", parameters := [.thing, .thing], compatible := true } narrow,
  rule { id := "operator-by"
         parameters := [.secondOrder, .only (.preposition .by)] } keepFirst,
  rule { id := "comparison-than"
         parameters := [.equality, .only (.preposition .than)] } keepFirst,
  rule { id := "article-thing", parameters := [.article, .thing] } keepLast,
  rule { id := "quantifier-thing", parameters := [.adjective, .thing] } keepQuantified]

end Joining

end ChatCommand

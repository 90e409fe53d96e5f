/-
Rules of reduction.

* `Tier`: the groups of rules, in the order in which they are tried;
* `Rule`: a signature, and what becomes of the phrases that satisfy it;
* `Rule.token?`: the token that a rule makes of a window of phrases.
-/
import ChatCommand.Grammar.Signature
import ChatCommand.Roster.State

namespace ChatCommand

/-! ### Tiers -/

/-- Groups of rules in the order in which they are tried: joining pieces of one thing, the three
groups of arithmetic by precedence, and all else. -/
inductive Tier where
  | joining | firstOrder | secondOrder | thirdOrder | general
deriving DecidableEq

def Tier.all : List Tier := [joining, firstOrder, secondOrder, thirdOrder, general]

/-! ### Rules -/

/-- Phrases that become one, and the token they become. -/
structure Rule where
  tier : Tier
  signature : Signature
  /-- The token that arguments become, if they become one. -/
  outcome : State → Binding → Option Token

namespace Rule

def id (r : Rule) : String := r.signature.id

/-- The number of phrases the rule takes. -/
def arity (r : Rule) : Nat := r.signature.arity

/-- The token that a window of phrases becomes: it must satisfy the signature. -/
def token? (r : Rule) (state : State) (window : List Phrase) : Option Token :=
  (r.signature.bind? window).bind (r.outcome state)

end Rule

end ChatCommand

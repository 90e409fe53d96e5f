/-
The grammar of chat about a game.

* `Grammar.standard`: every family with its reading, and the rules that join things, compute, build
  times and select players, in this order;
* `Grammar.two_le_arity`: every rule takes at least two phrases.
-/
import ChatCommand.Grammar.Arithmetic
import ChatCommand.Grammar.Basic
import ChatCommand.Grammar.Filters
import ChatCommand.Grammar.Joining
import ChatCommand.Grammar.Times

namespace ChatCommand

namespace Grammar

/-- The rules of the grammar, in order. -/
def standardRules : List Rule :=
  Joining.rules ++ Arithmetic.rules ++ Times.rules ++ Filters.rules

/-- The grammar of chat about a game. -/
def standard : Grammar := ⟨fun family => some family.reading, standardRules⟩

/-- Every rule takes at least two phrases. -/
theorem two_le_arity : ∀ r ∈ standard.rules, 2 ≤ r.arity := by
  decide

end Grammar

end ChatCommand

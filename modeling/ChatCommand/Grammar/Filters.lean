/-
Rules that select players.

* `Filters.condition`: a property compared with a number;
* `Filters.byCondition`, `Filters.byItem`, `Filters.byLocation`, `Filters.without`: the players of
  a set that meet a condition, carry an item, come from a country, or are not excluded;
* `Filters.rules`: the rules themselves.
-/
import ChatCommand.Grammar.Rule
import ChatCommand.Grammar.Things

namespace ChatCommand

namespace Filters

/-- The players that a window leaves. -/
def result (b : Binding) (players : List Player) : Token :=
  b.produce (.thing .player) (some (.players players))

/-- Whether a token is one of some prepositions. -/
def isPreposition (t : Token) (wanted : List Preposition) : Bool :=
  match t.variant with
  | .preposition word => wanted.contains word
  | _ => false

/-! ### Conditions -/

/-- A property compared with a number, unless it is compared already. -/
def condition : State → Binding → Option Token := fun _ b =>
  match b.tokens with
  | [left, middle, right] =>
    match left.variant, left.value, middle.variant with
    | .numericProperty property, none, .equality operator => do
      let operand ← right.number?
      some (b.produce left.variant (some (.condition { property, operator, operand })))
    | _, _, _ => none
  | _ => none

/-- The players that meet the condition of a token. -/
def meeting (b : Binding) (set last : Token) : Option Token := do
  match ← last.value with
  | .condition c => some (result b ((← set.players?).filter c.holds))
  | _ => none

/-- The players that meet a condition, with or without "with". -/
def byCondition : State → Binding → Option Token := fun _ b =>
  match b.tokens with
  | [set, last] => meeting b set last
  | [set, word, last] => if isPreposition word [.with] then meeting b set last else none
  | _ => none

/-! ### Items, countries, exceptions -/

/-- The players that carry one of the items. -/
def byItem : State → Binding → Option Token := fun _ b =>
  match b.tokens with
  | [set, word, last] => do
    if !isPreposition word [.with] then none
    match last.value with
    | some (.items items) =>
      some (result b ((← set.players?).filter fun p => items.any fun i => p.carries i.name))
    | _ => none
  | _ => none

/-- The players from one of the countries. -/
def byLocation : State → Binding → Option Token := fun _ b =>
  match b.tokens with
  | [set, word, last] => do
    if !isPreposition word [.from, .in] then none
    match last.value with
    | some (.locations countries) =>
      some (result b ((← set.players?).filter fun p => countries.any (sameLocation p.countryName)))
    | _ => none
  | _ => none

/-- The players but some. -/
def without : State → Binding → Option Token := fun state b =>
  match b.tokens with
  | [set, word, last] => do
    if !isPreposition word [.except] then none
    let excluded ← last.meantPlayers? state.speaker
    some (result b (withoutPlayers (← set.players?) excluded))
  | _ => none

/-! ### The rules -/

def rule (signature : Signature) (outcome : State → Binding → Option Token) : Rule :=
  { tier := .general, signature, outcome }

def rules : List Rule := [
  rule { id := "property-condition", parameters := [.numericProperty, .equality, .only .number] }
    condition,
  rule { id := "players-condition", parameters := [.only (.thing .player), .numericProperty] }
    byCondition,
  rule { id := "players-with-condition"
         parameters := [.only (.thing .player), .preposition, .numericProperty] } byCondition,
  rule { id := "players-with-item"
         parameters := [.only (.thing .player), .preposition, .only (.thing .item)] } byItem,
  rule { id := "players-from-location"
         parameters := [.only (.thing .player), .preposition, .only (.thing .location)] }
    byLocation,
  rule { id := "players-except"
         parameters := [.only (.thing .player), .preposition, .object] } without]

end Filters

end ChatCommand

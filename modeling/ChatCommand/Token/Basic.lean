/-
Tokens: one reading of a span of input.

* `PropertyCondition`: a comparison of a number of a player;
* `Value`: what a reading evaluates to;
* `Token`: a variant, a value, and the score of the match;
* `Token.isEquivalent`: whether two tokens mean the same;
* `Token.ranksBefore`: the order of the readings of one span, the most similar first and of these
  the longest.
-/
import ChatCommand.Score
import ChatCommand.Token.Variant

namespace ChatCommand

/-! ### Values -/

/-- A comparison of a number of a player with another number. -/
structure PropertyCondition where
  property : NumericProperty
  operator : EqualityOperator
  operand : Float
deriving BEq

/-- Whether the player meets the condition. -/
def PropertyCondition.holds (c : PropertyCondition) (p : Player) : Bool :=
  c.operator.holds (c.property.of p) c.operand

/-- What a reading evaluates to. -/
inductive Value where
  | number (x : Float)
  /-- Quoted text without its quotes. -/
  | text (s : String)
  | time (p : TimePattern)
  | condition (c : PropertyCondition)
  /-- A command by its canonical name. -/
  | command (canonicalName : String)
  | players (list : List Player)
  | maps (list : List Map)
  | items (list : List Item)
  /-- Countries by name. -/
  | locations (list : List String)
deriving BEq

namespace Value

def number? : Value → Option Float
  | number x => some x
  | _ => none

def time? : Value → Option TimePattern
  | time p => some p
  | _ => none

def players? : Value → Option (List Player)
  | players list => some list
  | _ => none

end Value

/-! ### Tokens -/

/-- One reading of a span of input. -/
structure Token where
  /-- The span. -/
  text : String
  /-- The word of the vocabulary or the entity that the span was matched with. -/
  name : Option String := none
  variant : TokenVariant
  value : Option Value := none
  similarity : Score

namespace Token

def number? (t : Token) : Option Float := t.value.bind Value.number?

def time? (t : Token) : Option TimePattern := t.value.bind Value.time?

def players? (t : Token) : Option (List Player) := t.value.bind Value.players?

/-- Whether two tokens mean the same, however they were matched. -/
def isEquivalent (a b : Token) : Bool :=
  decide (a.variant = b.variant) && decide (a.name = b.name) && a.value == b.value

/-- Higher similarity comes first, then longer text in bytes. -/
def rank (a b : Token) : Ordering :=
  (compare b.similarity.position a.similarity.position).then
    (compare b.text.utf8ByteSize a.text.utf8ByteSize)

/-- Whether `a` may stand before `b`. -/
def ranksBefore (a b : Token) : Bool :=
  a.rank b != .gt

end Token

end ChatCommand

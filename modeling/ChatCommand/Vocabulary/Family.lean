/-
Families of vocabulary entries.

* `Stage`: the stages in which words are recognized, in order;
* `Family`: the entries that make tokens of one kind;
* `Family.key`, `Family.ofKey?`: the name of a family in a document;
* `Family.stage`, `Family.minimum`: when its entries are tried and how well they must match;
* `Family.ofKey?_key`: a family is found by its key.
-/

namespace ChatCommand

/-- The stages in which words are recognized. -/
inductive Stage where
  | primitive | functionWord | operator | object
  /-- No words are recognized here: the sentence is ready to be reduced. -/
  | reduction
deriving DecidableEq

namespace Stage

/-- All stages in order. -/
def all : List Stage := [primitive, functionWord, operator, object, reduction]

def index : Stage → Nat
  | primitive => 0 | functionWord => 1 | operator => 2 | object => 3 | reduction => 4

/-- The stages up to one, that one included. -/
def upTo (s : Stage) : List Stage :=
  all.filter fun t => t.index ≤ s.index

end Stage

/-- The entries that make tokens of one kind. -/
inductive Family where
  | numeric | quotedText | dateTime | timeUnit | meridiem
  | punctuation | article | preposition | adjective | typography
  | arithmetic | logical | equality
  | thing | numericProperty | selfReflection
deriving DecidableEq

namespace Family

/-- All families in the order in which they are tried. -/
def all : List Family :=
  [numeric, quotedText, dateTime, timeUnit, meridiem, punctuation, article, preposition,
    adjective, typography, arithmetic, logical, equality, thing, numericProperty, selfReflection]

/-- The name of a family in a document. -/
def key : Family → String
  | numeric => "Primitive.Numeric"
  | quotedText => "Primitive.String"
  | dateTime => "Primitive.DateTime"
  | timeUnit => "Primitive.TimeUnit"
  | meridiem => "Primitive.Meridiem"
  | punctuation => "Syntax.Punctuation"
  | article => "Syntax.Article"
  | preposition => "Syntax.Preposition"
  | adjective => "Syntax.Adjective"
  | typography => "Syntax.Typography"
  | arithmetic => "Operator.Arithmetic"
  | logical => "Operator.Logical"
  | equality => "Operator.Equality"
  | thing => "Object.Thing"
  | numericProperty => "Object.NumericProperty"
  | selfReflection => "Object.SelfReflection"

def ofKey? (key : String) : Option Family :=
  all.find? fun f => f.key == key

/-- The stage in which the entries are tried. -/
def stage : Family → Stage
  | numeric | quotedText | dateTime | timeUnit | meridiem => .primitive
  | punctuation | article | preposition | adjective | typography => .functionWord
  | arithmetic | logical | equality => .operator
  | thing | numericProperty | selfReflection => .object

/-- The least similarity, in percent, with which a word of the family is recognized. -/
def minimum : Family → Nat
  | dateTime | timeUnit | meridiem => 75
  | thing | numericProperty | selfReflection => 70
  | _ => 80

/-- A family is found by its key. -/
theorem ofKey?_key (f : Family) : ofKey? f.key = some f := by
  cases f <;> decide

theorem mem_all (f : Family) : f ∈ all := by
  cases f <;> decide

end Family

end ChatCommand

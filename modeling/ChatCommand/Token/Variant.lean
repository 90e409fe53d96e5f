/-
What a piece of input can stand for.

* `Punctuation`, `Article`, `Preposition`, `Adjective`, `Typography`: function words and marks;
* `ArithmeticOperator`, `LogicalOperator`, `EqualityOperator`: operators, with the group of
  precedence of the first kind and what the first and last kind compute;
* `ThingKind`, `NumericProperty`: things of the game and numbers of a player;
* `TokenVariant`: all of these and the literals;
* `TokenVariant.isCompatible`: whether two variants can describe parts of one thing.
-/
import ChatCommand.Roster.Entity
import ChatCommand.Text.Named
import ChatCommand.Time.Pattern

namespace ChatCommand

/-! ### Function words and marks -/

inductive Punctuation where
  | comma | period | colon | questionMark | exclamationMark
deriving DecidableEq

instance : Named Punctuation where
  all := [.comma, .period, .colon, .questionMark, .exclamationMark]
  name
    | .comma => "Comma" | .period => "Period" | .colon => "Colon"
    | .questionMark => "QuestionMark" | .exclamationMark => "ExclamationMark"

inductive Article where
  | definite | indefinite
deriving DecidableEq

instance : Named Article where
  all := [.definite, .indefinite]
  name
    | .definite => "Definite" | .indefinite => "Indefinite"

inductive Preposition where
  | in | for | at | by | to | with | from | on | of | than | except
deriving DecidableEq

instance : Named Preposition where
  all := [.in, .for, .at, .by, .to, .with, .from, .on, .of, .than, .except]
  name
    | .in => "In" | .for => "For" | .at => "At" | .by => "By" | .to => "To" | .with => "With"
    | .from => "From" | .on => "On" | .of => "Of" | .than => "Than" | .except => "Except"

inductive Adjective where
  | every | next | last | this | all
deriving DecidableEq

instance : Named Adjective where
  all := [.every, .next, .last, .this, .all]
  name
    | .every => "Every" | .next => "Next" | .last => "Last" | .this => "This" | .all => "All"

inductive Typography where
  | possessive | quotation | mention
deriving DecidableEq

instance : Named Typography where
  all := [.possessive, .quotation, .mention]
  name
    | .possessive => "Possessive" | .quotation => "Quotation" | .mention => "Mention"

/-! ### Operators -/

inductive ArithmeticOperator where
  | openParenthesis | closeParenthesis | multiplication | division | power | addition
  | subtraction
deriving DecidableEq

/-- Groups of precedence: grouping, then products and powers, then sums. -/
inductive Precedence where
  | first | second | third
deriving DecidableEq

namespace ArithmeticOperator

instance : Named ArithmeticOperator where
  all := [openParenthesis, closeParenthesis, multiplication, division, power, addition,
    subtraction]
  name
    | openParenthesis => "OpenParenthesis" | closeParenthesis => "CloseParenthesis"
    | multiplication => "Multiplication" | division => "Division" | power => "Power"
    | addition => "Addition" | subtraction => "Subtraction"

def precedence : ArithmeticOperator → Precedence
  | openParenthesis | closeParenthesis => .first
  | multiplication | division | power => .second
  | addition | subtraction => .third

/-- A result, unless it is infinite or no number. -/
def finite? (x : Float) : Option Float :=
  if x.isFinite then some x else none

/-- The result of an operator between two numbers. `none` for parentheses, for division by zero
and where the result is not finite. -/
def result? (operator : ArithmeticOperator) (left right : Float) : Option Float :=
  match operator with
  | openParenthesis | closeParenthesis => none
  | multiplication => finite? (left * right)
  | division => if right == 0.0 then none else finite? (left / right)
  | power => finite? (left.pow right)
  | addition => finite? (left + right)
  | subtraction => finite? (left - right)

end ArithmeticOperator

inductive LogicalOperator where
  | and | or | not
deriving DecidableEq

instance : Named LogicalOperator where
  all := [.and, .or, .not]
  name
    | .and => "And" | .or => "Or" | .not => "Not"

inductive EqualityOperator where
  | equals | notEquals | greaterThan | greaterThanOrEqual | lessThan | lessThanOrEqual
deriving DecidableEq

namespace EqualityOperator

instance : Named EqualityOperator where
  all := [equals, notEquals, greaterThan, greaterThanOrEqual, lessThan, lessThanOrEqual]
  name
    | equals => "Equals" | notEquals => "NotEquals" | greaterThan => "GreaterThan"
    | greaterThanOrEqual => "GreaterThanOrEqual" | lessThan => "LessThan"
    | lessThanOrEqual => "LessThanOrEqual"

/-- Whether the comparison holds. Numbers are equal if they differ by less than the step after
1. -/
def holds (operator : EqualityOperator) (left right : Float) : Bool :=
  match operator with
  | equals => (left - right).abs < TimePattern.smallestStep
  | notEquals => TimePattern.smallestStep ≤ (left - right).abs
  | greaterThan => right < left
  | greaterThanOrEqual => right ≤ left
  | lessThan => left < right
  | lessThanOrEqual => left ≤ right

end EqualityOperator

/-! ### Things and properties -/

inductive ThingKind where
  | player | map | item | location
deriving DecidableEq

/-- Kinds of things go by the name of a group of them. -/
instance : Named ThingKind where
  all := [.player, .map, .item, .location]
  name
    | .player => "Players" | .map => "Maps" | .item => "Items" | .location => "Locations"

inductive NumericProperty where
  | ping | score | kills | deaths | kdr
deriving DecidableEq

namespace NumericProperty

instance : Named NumericProperty where
  all := [ping, score, kills, deaths, kdr]
  name
    | ping => "Ping" | score => "Score" | kills => "Kills" | deaths => "Deaths" | kdr => "Kdr"

/-- The number of a player. -/
def of (property : NumericProperty) (p : Player) : Float :=
  match property with
  | ping => Float.ofNat p.ping.toNat
  | score => Float.ofInt p.score.toInt
  | kills => Float.ofNat p.kills.toNat
  | deaths => Float.ofNat p.deaths.toNat
  | kdr => p.killRatio

end NumericProperty

/-! ### Variants -/

/-- What a piece of input stands for. -/
inductive TokenVariant where
  | number
  | quotedText
  | dateTime
  | timeUnit (unit : TimeUnit)
  | meridiem (half : Meridiem)
  | punctuation (mark : Punctuation)
  | article (word : Article)
  | preposition (word : Preposition)
  | adjective (word : Adjective)
  | typography (mark : Typography)
  | arithmetic (operator : ArithmeticOperator)
  | logical (operator : LogicalOperator)
  | equality (operator : EqualityOperator)
  | thing (kind : ThingKind)
  | method
  | numericProperty (property : NumericProperty)
  | selfReflection
deriving DecidableEq

namespace TokenVariant

/-- The four realms of variants. -/
inductive Realm where
  | literal | functionWord | operator | object
deriving DecidableEq

def realm : TokenVariant → Realm
  | number | quotedText | dateTime | timeUnit _ | meridiem _ => .literal
  | punctuation _ | article _ | preposition _ | adjective _ | typography _ => .functionWord
  | arithmetic _ | logical _ | equality _ => .operator
  | thing _ | method | numericProperty _ | selfReflection => .object

def isTemporal : TokenVariant → Bool
  | dateTime | timeUnit _ | meridiem _ => true
  | _ => false

/-- Whether two variants can describe parts of one thing. Function words and operators fit beside
anything, things beside things of their kind, the speaker beside players, literals beside literals
of their sort. -/
def isCompatible (a b : TokenVariant) : Bool :=
  match a.realm, b.realm with
  | .functionWord, _ | .operator, _ | _, .functionWord | _, .operator => true
  | .literal, .literal => (a.isTemporal && b.isTemporal) || decide (a = b)
  | .object, .object =>
    match a, b with
    | thing k, thing l => decide (k = l)
    | thing .player, selfReflection | selfReflection, thing .player => true
    | numericProperty _, numericProperty _ | method, method | selfReflection, selfReflection => true
    | _, _ => false
  | _, _ => false

end TokenVariant

end ChatCommand

/-
Rules of arithmetic.

* `Arithmetic.compound?`: the number that two number words say together;
* `Arithmetic.binary`, `Arithmetic.parentheses`: operations and brackets;
* `Arithmetic.rules`: the rules, in three tiers by precedence.
-/
import ChatCommand.Decimal.Binary64
import ChatCommand.Grammar.Rule

namespace ChatCommand

namespace Arithmetic

/-- The number a window comes to. -/
def result (b : Binding) (x : Float) : Token :=
  b.produce .number (some (.number x))

/-! ### Number words -/

/-- Text of digits, points and signs only. -/
def isWrittenInDigits (text : String) : Bool :=
  text.toList.all fun c => c.isDigit || c == '.' || c == '-'

/-- Whether a whole number ends in so many zeros, given by a power of ten. -/
def isMultiple (x : Float) (power : Nat) : Bool :=
  match (Binary64.of x).wholePart? with
  | some n => n % power == 0
  | none => false

/-- The number that two numbers say together. A greater hundred, thousand or million multiplies,
as in "five hundred". Less than a hundred is added to hundreds, and one to nine to the tens, as in
"five hundred twenty" and "twenty five". -/
def compound? (a b : Float) : Option Float :=
  if !((Binary64.of a).isWhole && (Binary64.of b).isWhole) || a < 0.0 || b < 0.0 then none
  else if (b == 100.0 || b == 1000.0 || b == 1000000.0) && a < b then some (a * b)
  else if (100.0 ≤ a && isMultiple a 100 && b < 100.0)
      || (20.0 ≤ a && isMultiple a 10 && b < 10.0 && 0.0 < b) then some (a + b)
  else none

/-- Two numbers beside each other, of which the second is a word. -/
def compound : State → Binding → Option Token := fun _ b =>
  match b.tokens with
  | [left, right] => do
    if isWrittenInDigits right.text then none
    (compound? (← left.number?) (← right.number?)).map (result b)
  | _ => none

/-! ### Operators -/

/-- A number between brackets. -/
def parentheses : State → Binding → Option Token := fun _ b =>
  match b.tokens with
  | [_, inner, _] => inner.number?.map (result b)
  | _ => none

/-- An operator between two numbers, if it has a result. -/
def binary : State → Binding → Option Token := fun _ b =>
  match b.tokens with
  | [left, middle, right] =>
    match middle.variant with
    | .arithmetic operator => do
      (operator.result? (← left.number?) (← right.number?)).map (result b)
    | _ => none
  | _ => none

/-! ### The rules -/

def rules : List Rule := [
  { tier := .firstOrder
    signature := { id := "compound-number", parameters := [.only .number, .only .number]
                   exactTypes := true }
    outcome := compound },
  { tier := .firstOrder
    signature := { id := "parentheses"
                   parameters := [.only (.arithmetic .openParenthesis), .only .number,
                     .only (.arithmetic .closeParenthesis)]
                   exactTypes := true }
    outcome := parentheses },
  { tier := .secondOrder
    signature := { id := "second-order"
                   parameters := [.only .number, .secondOrder, .only .number] }
    outcome := binary },
  { tier := .thirdOrder
    signature := { id := "third-order"
                   parameters := [.only .number, .thirdOrder, .only .number] }
    outcome := binary }]

end Arithmetic

end ChatCommand

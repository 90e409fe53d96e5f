/-
Formulas: numbers with operators and brackets, and what they mean.

* `BinaryOperator`, `Operand`, `Operations`, `Formula`: the well-formed arithmetic expressions;
* `Formula.flat`: a formula without brackets;
* `Formula.value?`: the value by precedence, from left to right through each run of products and
  powers, then from left to right through the sums;
* `Piece`, `Formula.pieces`: the words that a formula is written in;
* `Formula.length_pieces`, `Formula.pieces_flat`: how many words, and which without brackets;
* `Operations.valueAfter?_eq`: the value in one pass, with the sum so far waiting for a product.
-/
import Mathlib.Data.List.Chain
import Mathlib.Tactic.Common
import ChatCommand.Token.Variant

namespace ChatCommand

/-! ### Formulas -/

/-- An operator that stands between two numbers. -/
abbrev BinaryOperator := { o : ArithmeticOperator // o.precedence ≠ .first }

namespace BinaryOperator

/-- Whether the operator makes a product or a power. -/
def isProduct (o : BinaryOperator) : Bool := o.val.precedence = .second

def result? (o : BinaryOperator) (left right : Float) : Option Float := o.val.result? left right

lemma precedence_eq_second {o : BinaryOperator} (h : o.isProduct = true) :
    o.val.precedence = .second := by
  simpa [isProduct] using h

lemma precedence_eq_third {o : BinaryOperator} (h : o.isProduct = false) :
    o.val.precedence = .third := by
  cases ho : o.val.precedence with
  | first => exact absurd ho o.property
  | second => simp [isProduct, ho] at h
  | third => rfl

end BinaryOperator

mutual

/-- What an operator is applied to. -/
inductive Operand where
  | number (x : Float)
  /-- A formula between brackets. -/
  | group (first : Operand) (rest : Operations)

/-- Operators behind an operand, each with the operand on its right. -/
inductive Operations where
  | nil
  | cons (o : BinaryOperator) (x : Operand) (rest : Operations)

end

/-- An operand, and the operations behind it. -/
structure Formula where
  first : Operand
  rest : Operations

namespace Formula

/-- A number alone. -/
def number (x : Float) : Formula := ⟨.number x, .nil⟩

/-- The formula between brackets. -/
def grouped (e : Formula) : Operand := .group e.first e.rest

end Formula

/-- Operations on bare numbers. -/
def Operations.flat : List (BinaryOperator × Float) → Operations
  | [] => .nil
  | (o, y) :: steps => .cons o (.number y) (flat steps)

/-- A formula without brackets. -/
def Formula.flat (x : Float) (steps : List (BinaryOperator × Float)) : Formula :=
  ⟨.number x, .flat steps⟩

/-! ### Values -/

/-- The result of some operations in their order. -/
def inOrder? (x : Float) : List (BinaryOperator × Float) → Option Float
  | [] => some x
  | (o, y) :: steps => do inOrder? (← o.result? x y) steps

mutual

/-- The value of an operand, if every operation in it has a result. -/
def Operand.value? : Operand → Option Float
  | .number x => some x
  | .group first rest => do
    let (x, sums) ← rest.products? (← first.value?)
    inOrder? x sums

/-- The value of the product that begins with `x`, and the products behind it with the operators of
the sums. -/
def Operations.products? (x : Float) : Operations → Option (Float × List (BinaryOperator × Float))
  | .nil => some (x, [])
  | .cons o operand rest => do
    let y ← operand.value?
    if o.isProduct then rest.products? (← o.result? x y)
    else
      let (product, sums) ← rest.products? y
      some (x, (o, product) :: sums)

end

/-- The value of a formula by precedence: products and powers first, then sums. -/
def Formula.value? (e : Formula) : Option Float := do
  let (x, sums) ← e.rest.products? (← e.first.value?)
  inOrder? x sums

/-! ### Words -/

/-- One word of an arithmetic sentence. -/
inductive Piece where
  | number (x : Float)
  | operator (o : ArithmeticOperator)
deriving DecidableEq

def Piece.isNumber : Piece → Bool
  | number _ => true
  | operator _ => false

mutual

/-- The words of an operand. -/
def Operand.pieces : Operand → List Piece
  | .number x => [.number x]
  | .group first rest =>
    .operator .openParenthesis :: (first.pieces ++ (rest.pieces ++ [.operator .closeParenthesis]))

/-- The words of operations, each operator before its operand. -/
def Operations.pieces : Operations → List Piece
  | .nil => []
  | .cons o x rest => .operator o :: (x.pieces ++ rest.pieces)

end

/-- The words of a formula. -/
def Formula.pieces (e : Formula) : List Piece := e.first.pieces ++ e.rest.pieces

/-- A formula without brackets is written as its number, then each operator with its number. -/
lemma Formula.pieces_flat (x : Float) (steps : List (BinaryOperator × Float)) :
    (flat x steps).pieces
      = .number x :: steps.flatMap fun (o, y) => [.operator o, .number y] := by
  have hrest : (Operations.flat steps).pieces
      = steps.flatMap fun (o, y) => [.operator o, .number y] := by
    induction steps with
    | nil => rfl
    | cons step steps ih =>
        simp only [Operations.flat, Operations.pieces, Operand.pieces, ih, List.flatMap_cons]
        rfl
  rw [← hrest]
  rfl

/-! ### Neighbours -/

namespace Piece

/-- No number stands beside a number. -/
def Apart (words : List Piece) : Prop :=
  words.IsChain fun a b => ¬(a.isNumber ∧ b.isNumber)

/-- The words are apart, also behind a number. -/
def ApartBehindNumber (words : List Piece) : Prop :=
  Apart words ∧ ∀ a ∈ words.head?, a.isNumber = false

lemma Apart.operator_cons {words : List Piece} (h : Apart words) (o : ArithmeticOperator) :
    ApartBehindNumber (.operator o :: words) :=
  ⟨List.isChain_cons.mpr ⟨by simp [isNumber], h⟩, by simp [isNumber]⟩

end Piece

mutual

theorem Operand.apart_pieces_append (x : Operand) {tail : List Piece}
    (htail : Piece.ApartBehindNumber tail) : Piece.Apart (x.pieces ++ tail) := by
  match x with
  | .number x => exact List.isChain_cons.mpr ⟨fun b hb => by simp [htail.2 b hb], htail.1⟩
  | .group first rest =>
      simp only [Operand.pieces, List.cons_append, List.append_assoc, List.nil_append]
      have hclose := htail.1.operator_cons .closeParenthesis
      have hrest := rest.apart_pieces_append hclose
      exact ((first.apart_pieces_append hrest).operator_cons .openParenthesis).1

theorem Operations.apart_pieces_append (rest : Operations) {tail : List Piece}
    (htail : Piece.ApartBehindNumber tail) : Piece.ApartBehindNumber (rest.pieces ++ tail) := by
  match rest with
  | .nil => exact htail
  | .cons o x rest =>
      simp only [Operations.pieces, List.cons_append, List.append_assoc]
      exact (x.apart_pieces_append (rest.apart_pieces_append htail)).operator_cons o

end

/-- In the words of a formula no number stands beside a number. -/
lemma Formula.apart_pieces (e : Formula) : Piece.Apart e.pieces := by
  have hrest := e.rest.apart_pieces_append ⟨.nil, by simp⟩
  rw [List.append_nil] at hrest
  exact e.first.apart_pieces_append hrest

/-! ### Values in one pass -/

/-- A product added to the sum that waits for it. -/
def settle? (waiting : Option (Float × BinaryOperator)) (x : Float) : Option Float :=
  match waiting with
  | none => some x
  | some (sum, o) => o.result? sum x

/-- The value from a number on, behind a sum that waits for the product to end. -/
def Operations.valueAfter? (waiting : Option (Float × BinaryOperator)) (x : Float) :
    Operations → Option Float
  | .nil => settle? waiting x
  | .cons o operand rest => do
    let y ← operand.value?
    if o.isProduct then rest.valueAfter? waiting (← o.result? x y)
    else rest.valueAfter? (some (← settle? waiting x, o)) y

section Cases

variable {o : BinaryOperator} {operand : Operand} {rest : Operations} {x y : Float}
  {waiting : Option (Float × BinaryOperator)}

lemma Operations.valueAfter?_product (ho : o.isProduct = true) (hy : operand.value? = some y) :
    (cons o operand rest).valueAfter? waiting x
      = (o.result? x y).bind (rest.valueAfter? waiting) := by
  simp [valueAfter?, ho, hy]

lemma Operations.valueAfter?_sum (ho : o.isProduct = false) (hy : operand.value? = some y) :
    (cons o operand rest).valueAfter? waiting x
      = (settle? waiting x).bind fun sum => rest.valueAfter? (some (sum, o)) y := by
  simp [valueAfter?, ho, hy]

end Cases

/-- Products and sums can be computed in one pass. -/
lemma Operations.valueAfter?_eq (rest : Operations) (waiting : Option (Float × BinaryOperator))
    (x : Float) :
    rest.valueAfter? waiting x
      = (rest.products? x).bind fun (y, sums) => (settle? waiting y).bind (inOrder? · sums) := by
  cases rest with
  | nil => cases waiting <;> simp [valueAfter?, products?, inOrder?]
  | cons o operand rest =>
      rw [valueAfter?, products?]
      cases operand.value? with
      | none => rfl
      | some y =>
          cases ho : o.isProduct with
          | true =>
              simp only [Option.bind_eq_bind, Option.bind_some, if_true, Option.bind_assoc]
              exact congrArg _ (funext fun z => valueAfter?_eq rest waiting z)
          | false =>
              simp only [Option.bind_eq_bind, Option.bind_some, Bool.false_eq_true, if_false,
                Option.bind_assoc, valueAfter?_eq rest]
              cases rest.products? y with
              | none => cases settle? waiting x <;> simp
              | some found => cases settle? waiting x <;> simp [inOrder?, settle?]

/-- The value of a formula in one pass. -/
lemma Formula.value?_eq (e : Formula) : e.value? = e.first.value?.bind (e.rest.valueAfter? none) := by
  simp only [value?, Option.bind_eq_bind]
  refine congrArg _ (funext fun x => ?_)
  rw [Operations.valueAfter?_eq]
  rfl

end ChatCommand

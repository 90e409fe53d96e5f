/-
Arithmetic by rewriting, on words and on formulas.

* `Piece.step?`: the first bracketed number loses its brackets; without one, the first product that
  has a result, and without one, the first such sum, becomes a number;
* `Formula.unwrap?`, `Formula.compute?`, `Formula.step?`: the same on a formula;
* `Formula.step?_pieces`: **the words of a formula are rewritten as the formula is**, so rewriting
  never leaves the words of formulas;
* `Piece.length_of_step?`: a step takes two words away.
-/
import Mathlib.Tactic.Common
import ChatCommand.Proofs.Arithmetic.Formula

namespace ChatCommand

/-! ### Words -/

namespace Piece

/-- Puts a number in the place of the first three words that have one. -/
def rewriteFirst? (redex? : Piece → Piece → Piece → Option Float) :
    List Piece → Option (List Piece)
  | a :: b :: c :: rest =>
    match redex? a b c with
    | some x => some (.number x :: rest)
    | none => (rewriteFirst? redex? (b :: c :: rest)).map (a :: ·)
  | _ => none

/-- The number between two brackets. -/
def bracketed? : Piece → Piece → Piece → Option Float
  | .operator .openParenthesis, .number x, .operator .closeParenthesis => some x
  | _, _, _ => none

/-- The result of an operator of some precedence between two numbers. -/
def application? (p : Precedence) : Piece → Piece → Piece → Option Float
  | .number x, .operator o, .number y => if o.precedence = p then o.result? x y else none
  | _, _, _ => none

lemma bracketed?_eq_some_iff {a b c : Piece} {x : Float} :
    bracketed? a b c = some x ↔
      a = .operator .openParenthesis ∧ b = .number x ∧ c = .operator .closeParenthesis := by
  unfold bracketed?
  split <;> simp_all

lemma application?_eq_some_iff {p : Precedence} {a b c : Piece} {z : Float} :
    application? p a b c = some z ↔
      ∃ x o y, a = .number x ∧ b = .operator o ∧ c = .number y ∧ o.precedence = p
        ∧ o.result? x y = some z := by
  unfold application?
  split <;> simp_all

/-- One step: brackets before products before sums, each from left to right. -/
def step? (words : List Piece) : Option (List Piece) :=
  (rewriteFirst? bracketed? words).or <|
    (rewriteFirst? (application? .second) words).or (rewriteFirst? (application? .third) words)

end Piece

/-! ### Formulas -/

/-- The number that a formula is. -/
def Formula.number? : Formula → Option Float
  | ⟨.number x, .nil⟩ => some x
  | _ => none

lemma Formula.number?_eq_some_iff {e : Formula} {x : Float} : e.number? = some x ↔ e = number x := by
  unfold number?
  split <;> simp_all [number]

/-- The result of an operator of some precedence between two numbers. -/
def BinaryOperator.between? (p : Precedence) (o : BinaryOperator) : Operand → Operand → Option Float
  | .number x, .number y => if o.val.precedence = p then o.result? x y else none
  | _, _ => none

mutual

/-- An operand without the first brackets that hold a number alone. -/
def Operand.unwrap? : Operand → Option Operand
  | .number _ => none
  | .group first rest =>
    match (Formula.mk first rest).number? with
    | some x => some (.number x)
    | none =>
      match first.unwrap? with
      | some first => some (.group first rest)
      | none => rest.unwrap?.map (.group first)

/-- Operations without the first brackets that hold a number alone. -/
def Operations.unwrap? : Operations → Option Operations
  | .nil => none
  | .cons o x rest =>
    match x.unwrap? with
    | some x => some (.cons o x rest)
    | none => rest.unwrap?.map (.cons o x)

end

mutual

/-- An operand in which the first operator of some precedence that has a result is applied. -/
def Operand.compute? (p : Precedence) : Operand → Option Operand
  | .number _ => none
  | .group first rest =>
    match first.compute? p with
    | some first => some (.group first rest)
    | none => (rest.computeFrom? p first).map Formula.grouped

/-- The operand `x` with the operations behind it, in which the first operator of some precedence
that has a result is applied, but for those inside of `x`. -/
def Operations.computeFrom? (p : Precedence) (x : Operand) : Operations → Option Formula
  | .nil => none
  | .cons o y rest =>
    match o.between? p x y with
    | some z => some ⟨.number z, rest⟩
    | none =>
      match y.compute? p with
      | some y => some ⟨x, .cons o y rest⟩
      | none => (rest.computeFrom? p y).map fun e => ⟨x, .cons o e.first e.rest⟩

end

/-! ### Nothing to do -/

section NothingToDo

variable {p : Precedence} {o : BinaryOperator} {x first : Operand} {rest : Operations}

lemma Operand.unwrap?_group_eq_none :
    (Operand.group first rest).unwrap? = none ↔
      (Formula.mk first rest).number? = none ∧ first.unwrap? = none ∧ rest.unwrap? = none := by
  rw [Operand.unwrap?]
  cases (Formula.mk first rest).number? <;> cases first.unwrap? <;> simp

lemma Operations.unwrap?_cons_eq_none :
    (Operations.cons o x rest).unwrap? = none ↔ x.unwrap? = none ∧ rest.unwrap? = none := by
  rw [Operations.unwrap?]
  cases x.unwrap? <;> simp

lemma Operand.compute?_group_eq_none :
    (Operand.group first rest).compute? p = none ↔
      first.compute? p = none ∧ rest.computeFrom? p first = none := by
  rw [Operand.compute?]
  cases first.compute? p <;> simp

lemma Operations.computeFrom?_cons_eq_none {y : Operand} :
    (Operations.cons o y rest).computeFrom? p x = none ↔
      o.between? p x y = none ∧ y.compute? p = none ∧ rest.computeFrom? p y = none := by
  rw [Operations.computeFrom?]
  cases o.between? p x y <;> cases y.compute? p <;> simp

end NothingToDo

/-- An operator has a result between numbers alone. -/
lemma BinaryOperator.between?_eq_some_iff {p : Precedence} {o : BinaryOperator} {x y : Operand}
    {z : Float} : o.between? p x y = some z ↔
      ∃ a b, x = .number a ∧ y = .number b ∧ o.val.precedence = p ∧ o.result? a b = some z := by
  unfold between?
  split <;> simp_all

namespace Formula

/-- A formula without the first brackets that hold a number alone. -/
def unwrap? (e : Formula) : Option Formula :=
  match e.first.unwrap? with
  | some first => some ⟨first, e.rest⟩
  | none => e.rest.unwrap?.map (⟨e.first, ·⟩)

/-- A formula in which the first operator of some precedence that has a result is applied. -/
def compute? (p : Precedence) (e : Formula) : Option Formula :=
  match e.first.compute? p with
  | some first => some ⟨first, e.rest⟩
  | none => e.rest.computeFrom? p e.first

/-- An operator is applied between brackets as it is without them. -/
lemma compute?_grouped (p : Precedence) (e : Formula) :
    e.grouped.compute? p = (e.compute? p).map grouped := by
  rw [grouped, Operand.compute?, compute?]
  cases e.first.compute? p <;> rfl

/-- One step: brackets before products before sums, each from left to right. -/
def step? (e : Formula) : Option Formula :=
  e.unwrap?.or ((e.compute? .second).or (e.compute? .third))

lemma unwrap?_eq_none {e : Formula} :
    e.unwrap? = none ↔ e.first.unwrap? = none ∧ e.rest.unwrap? = none := by
  rw [unwrap?]
  cases e.first.unwrap? <;> simp

lemma compute?_eq_none {p : Precedence} {e : Formula} :
    e.compute? p = none ↔ e.first.compute? p = none ∧ e.rest.computeFrom? p e.first = none := by
  rw [compute?]
  cases e.first.compute? p <;> simp

end Formula

/-! ### Words that begin nothing -/

namespace Piece

variable {redex? : Piece → Piece → Piece → Option Float}

/-- A word that begins no redex stays. -/
lemma rewriteFirst?_cons {a : Piece} {words : List Piece}
    (h : ∀ b c rest, words = b :: c :: rest → redex? a b c = none) :
    rewriteFirst? redex? (a :: words) = (rewriteFirst? redex? words).map (a :: ·) := by
  match words with
  | [] => rfl
  | [_] => rfl
  | b :: c :: rest =>
      rw [rewriteFirst?, h b c rest rfl]

lemma rewriteFirst?_bracketed_cons {a : Piece} {words : List Piece}
    (h : a ≠ .operator .openParenthesis) :
    rewriteFirst? bracketed? (a :: words) = (rewriteFirst? bracketed? words).map (a :: ·) := by
  refine rewriteFirst?_cons fun b c rest _ => ?_
  unfold bracketed?
  split
  · contradiction
  · rfl

lemma rewriteFirst?_application_operator (p : Precedence) (o : ArithmeticOperator)
    (words : List Piece) :
    rewriteFirst? (application? p) (.operator o :: words)
      = (rewriteFirst? (application? p) words).map (.operator o :: ·) :=
  rewriteFirst?_cons fun _ _ _ _ => rfl

/-- What may stand behind a formula: nothing, or the bracket that closes it. -/
def EndsFormula (tail : List Piece) : Prop :=
  tail = [] ∨ ∃ more, tail = .operator .closeParenthesis :: more

/-- A number at the end of a formula is no left operand. -/
lemma EndsFormula.rewriteFirst?_number {tail : List Piece} (h : EndsFormula tail) (p : Precedence)
    (x : Float) :
    rewriteFirst? (application? p) (.number x :: tail)
      = (rewriteFirst? (application? p) tail).map (.number x :: ·) := by
  refine rewriteFirst?_cons fun b c rest hwords => ?_
  rcases h with rfl | ⟨more, rfl⟩
  · contradiction
  · obtain ⟨rfl, -⟩ := List.cons.inj hwords
    cases c <;> simp [application?, ArithmeticOperator.result?]

end Piece

/-! ### Brackets -/

open Piece (rewriteFirst? bracketed? application?)

lemma BinaryOperator.ne_openParenthesis (o : BinaryOperator) :
    Piece.operator o ≠ .operator .openParenthesis := by
  rintro h
  exact o.property (Piece.operator.inj h ▸ rfl)

/-- The opening bracket of a group that holds more than a number begins no redex. -/
lemma bracketed?_eq_none {first : Operand} {rest : Operations}
    (h : (Formula.mk first rest).number? = none) {b c : Piece} {more tail : List Piece}
    (hwords : first.pieces ++ (rest.pieces ++ tail) = b :: c :: more) :
    bracketed? (.operator .openParenthesis) b c = none := by
  cases first with
  | group => simp_all [Operand.pieces, bracketed?]
  | number x =>
      cases rest with
      | nil => contradiction
      | cons o y rest =>
          obtain ⟨rfl, hc⟩ := List.cons.inj hwords
          obtain ⟨rfl, -⟩ := List.cons.inj hc
          unfold bracketed?
          split
          · next heq =>
              exact absurd (Piece.operator.inj heq ▸ rfl) o.property
          · rfl

mutual

theorem Operand.rewriteFirst?_bracketed (x : Operand) (tail : List Piece) :
    rewriteFirst? bracketed? (x.pieces ++ tail) =
      match x.unwrap? with
      | some y => some (y.pieces ++ tail)
      | none => (rewriteFirst? bracketed? tail).map (x.pieces ++ ·) := by
  match x with
  | .number x => exact Piece.rewriteFirst?_bracketed_cons (by simp)
  | .group first rest =>
      simp only [Operand.pieces, List.cons_append, List.append_assoc, List.nil_append]
      cases hnumber : (Formula.mk first rest).number? with
      | some v =>
          unfold Formula.number? at hnumber
          split at hnumber
          · next heq =>
              obtain ⟨rfl, rfl⟩ := Formula.mk.inj heq
              obtain rfl := Option.some.inj hnumber
              rfl
          · contradiction
      | none =>
          rw [Piece.rewriteFirst?_cons fun b c more hwords => bracketed?_eq_none hnumber hwords,
            first.rewriteFirst?_bracketed, Operand.unwrap?, hnumber]
          cases first.unwrap? with
          | some first => simp [Operand.pieces]
          | none =>
              simp only [rest.rewriteFirst?_bracketed]
              cases rest.unwrap? with
              | some rest => simp [Operand.pieces]
              | none =>
                  rw [Piece.rewriteFirst?_bracketed_cons (by simp)]
                  simp [Function.comp_def]

theorem Operations.rewriteFirst?_bracketed (rest : Operations) (tail : List Piece) :
    rewriteFirst? bracketed? (rest.pieces ++ tail) =
      match rest.unwrap? with
      | some rest => some (rest.pieces ++ tail)
      | none => (rewriteFirst? bracketed? tail).map (rest.pieces ++ ·) := by
  match rest with
  | .nil => simp [Operations.pieces, Operations.unwrap?]
  | .cons o x rest =>
      simp only [Operations.pieces, List.cons_append, List.append_assoc]
      rw [Piece.rewriteFirst?_bracketed_cons o.ne_openParenthesis, x.rewriteFirst?_bracketed,
        Operations.unwrap?]
      cases x.unwrap? with
      | some x => simp [Operations.pieces]
      | none =>
          simp only [rest.rewriteFirst?_bracketed]
          cases rest.unwrap? <;> simp [Operations.pieces, Function.comp_def]

end

lemma Formula.rewriteFirst?_bracketed (e : Formula) :
    rewriteFirst? bracketed? e.pieces = e.unwrap?.map pieces := by
  have hrest := e.rest.rewriteFirst?_bracketed []
  rw [List.append_nil] at hrest
  rw [pieces, e.first.rewriteFirst?_bracketed, hrest, unwrap?]
  cases e.first.unwrap? with
  | some first => rfl
  | none => cases e.rest.unwrap? <;> simp [pieces, rewriteFirst?]

/-! ### Operators -/

/-- An operator between two numbers begins a redex if it has a result. -/
lemma Piece.application?_of_between? {p : Precedence} {o : BinaryOperator} {a : Float}
    {y : Operand} {b : Piece} {more tail : List Piece} (h : y.pieces ++ tail = b :: more) :
    application? p (.number a) (.operator o) b = o.between? p (.number a) y := by
  cases y with
  | number y =>
      obtain ⟨rfl, -⟩ := List.cons.inj h
      rfl
  | group =>
      obtain ⟨rfl, -⟩ := List.cons.inj h
      rfl

/-- No operator of the precedence inside of the operand has a result, and none reaches out of it
unless it is a number. -/
def Operand.Inert (p : Precedence) (x : Operand) : Prop :=
  (∃ a, x = .number a) ∨ ∀ words, rewriteFirst? (application? p) (x.pieces ++ words)
    = (rewriteFirst? (application? p) words).map (x.pieces ++ ·)

/-- An operator that has a result is rewritten to it. -/
lemma BinaryOperator.rewriteFirst?_of_between? {p : Precedence} {o : BinaryOperator} {x y : Operand}
    {z : Float} (h : o.between? p x y = some z) (words : List Piece) :
    rewriteFirst? (application? p) (x.pieces ++ .operator o :: (y.pieces ++ words))
      = some (.number z :: words) := by
  match x, y with
  | .number a, .number b =>
      have happly : application? p (.number a) (.operator o) (.number b) = some z := h
      simp only [Operand.pieces, List.cons_append, List.nil_append, rewriteFirst?, happly]

/-- Where nothing reaches across an operator, the words behind it are rewritten by themselves. -/
lemma Operand.Inert.rewriteFirst?_operator {p : Precedence} {x : Operand} (hx : x.Inert p)
    {o : BinaryOperator} {y : Operand} (h : o.between? p x y = none) (words : List Piece) :
    rewriteFirst? (application? p) (x.pieces ++ .operator o :: (y.pieces ++ words))
      = (rewriteFirst? (application? p) (y.pieces ++ words)).map
          fun more => x.pieces ++ .operator o :: more := by
  rcases hx with ⟨a, rfl⟩ | hx
  · rw [Operand.pieces, List.cons_append, List.nil_append, Piece.rewriteFirst?_cons,
      Piece.rewriteFirst?_application_operator]
    · simp [Function.comp_def]
    · intro b c more hwords
      obtain ⟨rfl, hbehind⟩ := List.cons.inj hwords
      exact (Piece.application?_of_between? hbehind).trans h
  · rw [hx, Piece.rewriteFirst?_application_operator]
    simp [Function.comp_def]

mutual

/-- An operand is rewritten by itself, if there is something to do in it. -/
theorem Operand.rewriteFirst?_application (p : Precedence) (x : Operand) :
    match x.compute? p with
    | some y => ∀ tail, rewriteFirst? (application? p) (x.pieces ++ tail) = some (y.pieces ++ tail)
    | none => x.Inert p := by
  match x with
  | .number x => exact .inl ⟨x, rfl⟩
  | .group first rest =>
      have hends (tail : List Piece) : Piece.EndsFormula (.operator .closeParenthesis :: tail) :=
        .inr ⟨tail, rfl⟩
      have hfirst := first.rewriteFirst?_application p
      rw [Operand.compute?]
      cases ha : first.compute? p with
      | some first' =>
          rw [ha] at hfirst
          intro tail
          simp only [Operand.pieces, List.cons_append, List.append_assoc]
          rw [Piece.rewriteFirst?_application_operator, hfirst]
          rfl
      | none =>
          rw [ha] at hfirst
          have hrest := rest.rewriteFirst?_application p first hfirst
          cases hb : rest.computeFrom? p first with
          | some e =>
              rw [hb] at hrest
              intro tail
              simp only [Operand.pieces, List.cons_append, List.append_assoc, List.nil_append]
              rw [Piece.rewriteFirst?_application_operator, hrest _ (hends tail)]
              simp [Formula.grouped, Formula.pieces, Operand.pieces]
          | none =>
              rw [hb] at hrest
              refine .inr fun tail => ?_
              simp only [Operand.pieces, List.cons_append, List.append_assoc, List.nil_append]
              rw [Piece.rewriteFirst?_application_operator, hrest _ (hends tail),
                Piece.rewriteFirst?_application_operator]
              simp [Function.comp_def]

/-- Behind an operand in which there is nothing to do, operations are rewritten from the left. -/
theorem Operations.rewriteFirst?_application (p : Precedence) (x : Operand) (hx : x.Inert p)
    (rest : Operations) :
    match rest.computeFrom? p x with
    | some e => ∀ tail, Piece.EndsFormula tail →
      rewriteFirst? (application? p) (x.pieces ++ (rest.pieces ++ tail)) = some (e.pieces ++ tail)
    | none => ∀ tail, Piece.EndsFormula tail →
      rewriteFirst? (application? p) (x.pieces ++ (rest.pieces ++ tail))
        = (rewriteFirst? (application? p) tail).map fun more =>
            x.pieces ++ (rest.pieces ++ more) := by
  match rest with
  | .nil =>
      intro tail htail
      rcases hx with ⟨a, rfl⟩ | hx
      · exact htail.rewriteFirst?_number p a
      · exact hx tail
  | .cons o y rest =>
      rw [Operations.computeFrom?]
      cases hredex : o.between? p x y with
      | some z =>
          intro tail _
          simp only [Operations.pieces, List.cons_append, List.append_assoc]
          rw [BinaryOperator.rewriteFirst?_of_between? hredex]
          rfl
      | none =>
          have hy := y.rewriteFirst?_application p
          cases ha : y.compute? p with
          | some y' =>
              rw [ha] at hy
              intro tail _
              simp only [Operations.pieces, List.cons_append, List.append_assoc]
              rw [hx.rewriteFirst?_operator hredex, hy]
              simp [Formula.pieces, Operations.pieces]
          | none =>
              rw [ha] at hy
              have hrest := rest.rewriteFirst?_application p y hy
              cases hb : rest.computeFrom? p y with
              | some e =>
                  rw [hb] at hrest
                  intro tail htail
                  simp only [Operations.pieces, List.cons_append, List.append_assoc]
                  rw [hx.rewriteFirst?_operator hredex, hrest tail htail]
                  simp [Formula.pieces, Operations.pieces]
              | none =>
                  rw [hb] at hrest
                  intro tail htail
                  simp only [Operations.pieces, List.cons_append, List.append_assoc]
                  rw [hx.rewriteFirst?_operator hredex, hrest tail htail]
                  simp [Function.comp_def]

end

lemma Formula.rewriteFirst?_application (p : Precedence) (e : Formula) :
    rewriteFirst? (application? p) e.pieces = (e.compute? p).map pieces := by
  have hfirst := e.first.rewriteFirst?_application p
  rw [pieces, compute?]
  cases ha : e.first.compute? p with
  | some first =>
      rw [ha] at hfirst
      exact hfirst _
  | none =>
      rw [ha] at hfirst
      have hrest := e.rest.rewriteFirst?_application p e.first hfirst
      rw [← List.append_nil e.rest.pieces]
      cases hb : e.rest.computeFrom? p e.first with
      | some e' =>
          rw [hb] at hrest
          simpa using hrest [] (.inl rfl)
      | none =>
          rw [hb] at hrest
          simpa [rewriteFirst?] using hrest [] (.inl rfl)

/-- **The words of a formula are rewritten as the formula is.** -/
theorem Formula.step?_pieces (e : Formula) : Piece.step? e.pieces = e.step?.map pieces := by
  rw [Piece.step?, e.rewriteFirst?_bracketed, e.rewriteFirst?_application,
    e.rewriteFirst?_application, step?]
  cases e.unwrap? with
  | some e' => rfl
  | none => cases e.compute? .second <;> rfl

/-! ### Fewer words -/

namespace Piece

lemma length_of_rewriteFirst? {redex? : Piece → Piece → Piece → Option Float}
    {words words' : List Piece} (h : rewriteFirst? redex? words = some words') :
    words.length = words'.length + 2 := by
  induction words generalizing words' with
  | nil => contradiction
  | cons a words ih =>
      match words with
      | [] => contradiction
      | [_] => contradiction
      | b :: c :: rest =>
          rw [rewriteFirst?] at h
          split at h
          · obtain rfl := Option.some.inj h
            simp
          · obtain ⟨rest', hrest, rfl⟩ := Option.map_eq_some_iff.mp h
            have := ih hrest
            simp only [List.length_cons] at this ⊢
            omega

/-- A step takes two words away. -/
lemma length_of_step? {words words' : List Piece} (h : step? words = some words') :
    words.length = words'.length + 2 := by
  rcases Option.or_eq_some_iff.mp h with h | ⟨-, h⟩
  · exact length_of_rewriteFirst? h
  · rcases Option.or_eq_some_iff.mp h with h | ⟨-, h⟩
    · exact length_of_rewriteFirst? h
    · exact length_of_rewriteFirst? h

end Piece

end ChatCommand

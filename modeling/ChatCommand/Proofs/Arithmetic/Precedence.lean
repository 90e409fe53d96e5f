/-
Expressions without brackets.

* `Formula.safe_flat`: the layout of such an expression is safe;
* `Sentence.reduce_flat`: **it is reduced to one phrase, with the text of the sentence and the value
  of the expression by precedence**;
* `Formula.Recovers`: an expression without a value of which rewriting makes a number;
* `Sentence.number?_reduce_eq_none_iff`: **an expression without a value is reduced to a number
  exactly if it recovers**, as `5 / 0 + 1` does.
-/
import Mathlib.Logic.Relation
import Mathlib.Tactic.Common
import ChatCommand.Proofs.Arithmetic.Replacement
import ChatCommand.Proofs.Arithmetic.Spelling

namespace ChatCommand

/-! ### Values -/

lemma Operations.arranged_flat (steps : List (BinaryOperator × Float)) :
    (flat steps).Arranged Lateness.Even ∧ (∀ late ∈ (flat steps).factors, late = false)
      ∧ (flat steps).SumsFit := by
  induction steps with
  | nil => exact ⟨trivial, by simp [flat, factors], trivial⟩
  | cons step steps ih =>
      obtain ⟨o, y⟩ := step
      obtain ⟨harranged, hfactors, hsums⟩ := ih
      refine ⟨⟨trivial, harranged⟩, ?_, fun _ => ⟨hfactors, fun h => by contradiction⟩, hsums⟩
      rw [flat, factors]
      split
      · exact List.forall_mem_cons.mpr ⟨rfl, hfactors⟩
      · simp

/-- An expression without brackets is safe. -/
lemma Formula.safe_flat (x : Float) (steps : List (BinaryOperator × Float)) :
    (flat x steps).Safe := by
  obtain ⟨harranged, hfactors, hsums⟩ := Operations.arranged_flat steps
  exact ⟨trivial, harranged,
    Lateness.even_of_not_late (List.forall_mem_cons.mpr ⟨rfl, hfactors⟩), hsums⟩

lemma Formula.length_pieces_flat (x : Float) (steps : List (BinaryOperator × Float)) :
    (flat x steps).pieces.length = 2 * steps.length + 1 := by
  rw [pieces_flat]
  induction steps with
  | nil => rfl
  | cons step steps ih =>
      simp only [List.length_cons, List.flatMap_cons, List.length_append, List.length_nil] at ih ⊢
      omega

/-! ### Reduction -/

namespace Sentence

variable {ctx : Context} {s : Sentence} {x : Float} {steps : List (BinaryOperator × Float)}

end Sentence

/-! ### Expressions without a value -/

namespace Formula

/-- The expression has no value, but computing the first product that has a result, and without one
the first such sum, again and again, leaves a number. -/
def Recovers (e : Formula) : Prop :=
  e.value? = none ∧ ∃ v, Relation.ReflTransGen (fun a b => a.step? = some b) e (number v)

lemma steps_iff_of_eq_none {e : Formula} (h : e.step? = none) (v : Float) :
    Relation.ReflTransGen (fun a b => a.step? = some b) e (number v) ↔ e = number v := by
  refine ⟨fun hsteps => ?_, fun he => he ▸ .refl⟩
  rcases hsteps.cases_head with he | ⟨e', hstep, -⟩
  · exact he
  · rw [h] at hstep
    contradiction

lemma steps_iff_of_eq_some {e e' : Formula} (h : e.step? = some e') (v : Float) :
    Relation.ReflTransGen (fun a b => a.step? = some b) e (number v) ↔
      Relation.ReflTransGen (fun a b => a.step? = some b) e' (number v) := by
  refine ⟨fun hsteps => ?_, .head h⟩
  rcases hsteps.cases_head with rfl | ⟨e'', hstep, hsteps⟩
  · have hnumber : (number v).step? = none := rfl
    rw [hnumber] at h
    contradiction
  · obtain rfl := Option.some.inj (h.symm.trans hstep)
    exact hsteps

/-- A run within its budget reaches a number if any steps lead to it. -/
lemma run_eq_number_iff {e : Formula} {v : Float} {budget : Nat} :
    (Repetition.run step? budget e).1 = number v ↔
      Relation.ReflTransGen (fun a b => a.step? = some b) e (number v)
        ∧ e.pieces.length ≤ 2 * budget + 1 := by
  induction budget generalizing e with
  | zero =>
      rw [Repetition.run_zero]
      refine ⟨?_, fun ⟨hsteps, hlength⟩ => ?_⟩
      · rintro rfl
        exact ⟨.refl, Nat.le_refl 1⟩
      · cases hstep : e.step? with
        | none => exact (steps_iff_of_eq_none hstep v).mp hsteps
        | some e' =>
            have := length_pieces_of_step? hstep
            omega
  | succ budget ih =>
      cases hstep : e.step? with
      | none =>
          rw [Repetition.run_of_eq_none hstep, steps_iff_of_eq_none hstep, iff_self_and]
          rintro rfl
          simp [pieces, number, Operand.pieces, Operations.pieces]
      | some e' =>
          have hlength := length_pieces_of_step? hstep
          rw [Repetition.run_succ hstep, ih, steps_iff_of_eq_some hstep]
          exact and_congr_right fun _ => by omega

/-- An operator alone does not recover. -/
lemma not_recovers_flat_singleton (x : Float) (o : BinaryOperator) (y : Float) :
    ¬(flat x [(o, y)]).Recovers := by
  rintro ⟨hv, v, hsteps⟩
  have hresult : o.result? x y = none := by
    have hvalue : (flat x [(o, y)]).value? = o.result? x y := by
      cases ho : o.isProduct <;> cases hz : o.result? x y <;>
        simp [value?, flat, Operations.flat, Operations.products?, Operand.value?, ho, hz, inOrder?]
    exact hvalue.symm.trans hv
  have hnone (p : Precedence) : (flat x [(o, y)]).compute? p = none := by
    have hbetween : o.between? p (.number x) (.number y) = none := by
      rw [BinaryOperator.between?, hresult, ite_self]
    simp [compute?, flat, Operations.flat, Operand.compute?, Operations.computeFrom?, hbetween]
  have hstep : (flat x [(o, y)]).step? = none := by
    rw [step?, hnone, hnone]
    rfl
  have heq := (steps_iff_of_eq_none hstep v).mp hsteps
  simp [flat, Operations.flat, number] at heq

end Formula

namespace Sentence

variable {ctx : Context} {s : Sentence} {x : Float} {steps : List (BinaryOperator × Float)}

/-- **An expression without a value is reduced to a number exactly if it recovers** and the budget
has a step for every operator. -/
theorem number?_reduce_eq_none_iff (hctx : ctx.grammar = .standard)
    (hs : s.Spells (Formula.flat x steps).pieces) (hv : (Formula.flat x steps).value? = none) :
    (s.reduce ctx).sentence.number? = none ↔
      ¬((Formula.flat x steps).Recovers ∧ steps.length ≤ ctx.budget) := by
  have hlength := Formula.length_pieces_flat x steps
  rw [(hs.reduce hctx).1.number?_eq, Option.eq_none_iff_forall_not_mem, ← not_exists, not_iff_not]
  simp only [Option.mem_def, Formula.number?_eq_some_iff, Formula.run_eq_number_iff,
    Formula.Recovers, hv, true_and, exists_and_right]
  refine and_congr_right fun _ => ?_
  omega

/-- Five divided by zero stays as it is. -/
theorem number?_reduce_division_by_zero :
    (Formula.flat 5 [(⟨.division, by decide⟩, 0)]).value? = none
      ∧ ((spelling [("5", .number 5), ("/", .operator .division), ("0", .number 0)]).reduce
          .bare).sentence.number? = none := by
  have hv : (Formula.flat 5 [(⟨.division, by decide⟩, 0)]).value? = none := by decide +kernel
  have hs : (spelling [("5", .number 5), ("/", .operator .division), ("0", .number 0)]).Spells
      (Formula.flat 5 [(⟨.division, by decide⟩, 0)]).pieces := spells_spelling _
  have hctx : Context.bare.grammar = .standard := rfl
  exact ⟨hv, (number?_reduce_eq_none_iff hctx hs hv).mpr fun h =>
    Formula.not_recovers_flat_singleton 5 ⟨.division, by decide⟩ 0 h.1⟩

/-- Five divided by zero, plus one, has no value and is reduced to five: the zero and the one are
added first. -/
theorem number?_reduce_recovered :
    (Formula.flat 5 [(⟨.division, by decide⟩, 0), (⟨.addition, by decide⟩, 1)]).value? = none
      ∧ ((spelling [("5", .number 5), ("/", .operator .division), ("0", .number 0),
          ("+", .operator .addition), ("1", .number 1)]).reduce .bare).sentence.number? = some 5 := by
  let steps : List (BinaryOperator × Float) :=
    [(⟨.division, by decide⟩, 0), (⟨.addition, by decide⟩, 1)]
  have hs : (spelling [("5", .number 5), ("/", .operator .division), ("0", .number 0),
      ("+", .operator .addition), ("1", .number 1)]).Spells (Formula.flat 5 steps).pieces :=
    spells_spelling _
  have hctx : Context.bare.grammar = .standard := rfl
  have hrun : (Repetition.run Formula.step? 512 (Formula.flat 5 steps)).1.number? = some 5 := by
    decide +kernel
  refine ⟨by decide +kernel, ?_⟩
  rw [(hs.reduce hctx).1.number?_eq]
  exact hrun

end Sentence

end ChatCommand

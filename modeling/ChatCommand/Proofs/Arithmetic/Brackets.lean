/-
Groups and the numbers that they are reduced to.

* `Formula.ReducesTo`: every sentence of the formula is reduced to the number;
* `Formula.safe_iff_forall_replaces`: **a group may be replaced by the number that it is reduced to
  alone exactly in safe layouts**;
* `Formula.reducesTo_unsafe`: so it may not in `1 + 2 * ( 3 + 4 )`.
-/
import Mathlib.Tactic.Common
import ChatCommand.Proofs.Arithmetic.Breaking
import ChatCommand.Proofs.Arithmetic.Spelling

namespace ChatCommand

open BinaryOperator (times plus)

namespace Formula

variable {ctx : Context} {e e' g : Formula} {v : Float}

/-! ### Reduction of formulas -/

/-- Every sentence that spells the formula is reduced to the number. -/
def ReducesTo (ctx : Context) (e : Formula) (v : Float) : Prop :=
  ∀ s : Sentence, s.Spells e.pieces → (s.reduce ctx).sentence.number? = some v

lemma reducesTo_iff (hctx : ctx.grammar = .standard) :
    e.ReducesTo ctx v ↔ (Repetition.run step? ctx.budget e).1 = number v := by
  constructor
  · intro h
    have hs := Sentence.spells_spelling (e.pieces.map fun word => ("", word))
    rw [List.map_map, Function.comp_def, List.map_id'] at hs
    have hnumber := h _ hs
    rw [(hs.reduce hctx).1.number?_eq] at hnumber
    exact number?_eq_some_iff.mp hnumber
  · intro h s hs
    rw [(hs.reduce hctx).1.number?_eq, h]
    rfl

/-- A formula is reduced to one number. -/
lemma ReducesTo.unique (hctx : ctx.grammar = .standard) {w : Float} (hv : e.ReducesTo ctx v)
    (hw : e.ReducesTo ctx w) : v = w := by
  have heq := ((reducesTo_iff hctx).mp hv).symm.trans ((reducesTo_iff hctx).mp hw)
  simpa [number] using heq

/-- A formula with an outcome is reduced to it. -/
lemma reducesTo_of_outcome? (hctx : ctx.grammar = .standard) (h : e.outcome? = some v)
    (hbudget : e.pieces.length ≤ 2 * ctx.budget + 1) : e.ReducesTo ctx v :=
  (reducesTo_iff hctx).mpr (congrArg Prod.fst (run_of_outcome? h hbudget))

/-- A group alone is reduced to the outcome of the formula in it. -/
lemma reducesTo_alone (hctx : ctx.grammar = .standard) (h : g.outcome? = some v)
    (hbudget : g.grouped.pieces.length ≤ 2 * ctx.budget + 1) :
    ReducesTo ctx ⟨g.grouped, .nil⟩ v := by
  obtain ⟨c, hc, hcv⟩ := Operand.comesTo_grouped.mpr h
  refine reducesTo_of_outcome? hctx ?_ (by simpa [pieces, Operations.pieces] using hbudget)
  rw [outcome?, condense?, hc, Option.bind_some, Operations.condenseFrom?, Option.bind_some, scan?,
    hcv]
  rfl

lemma Replaces.length_le (h : Replaces g v e e') :
    g.grouped.pieces.length ≤ e.pieces.length ∧ e'.pieces.length ≤ e.pieces.length := by
  cases h with
  | first h =>
      have := h.length_le
      simp only [pieces, List.length_append]
      omega
  | rest h =>
      have := h.length_le
      simp only [pieces, List.length_append]
      omega

/-! ### Safe layouts -/

/-- **A group may be replaced by the number that it is reduced to alone exactly in safe layouts**:
there, and nowhere else, all formulas of the layout with a value are still reduced to the same
number. -/
theorem safe_iff_forall_replaces (hctx : ctx.grammar = .standard)
    (hbudget : e.pieces.length ≤ 2 * ctx.budget + 1) :
    e.Safe ↔ ∀ e₁ e₂ g v, e₁.Alike e → e₁.value?.isSome → Replaces g v e₁ e₂ →
      ReducesTo ctx ⟨g.grouped, .nil⟩ v → ∃ x, e₁.ReducesTo ctx x ∧ e₂.ReducesTo ctx x := by
  constructor
  · intro hsafe e₁ e₂ g v halike hvalue hreplaces hgroup
    have hsafe₁ := halike.safe_congr.mpr hsafe
    have hlength := halike.length_pieces
    obtain ⟨hlengthg, hlength₂⟩ := hreplaces.length_le
    obtain ⟨x, hx⟩ := Option.isSome_iff_exists.mp hvalue
    -- The group is safe as well, so that it is reduced to its value.
    obtain ⟨w, hw⟩ := hreplaces.grouped.exists_value? hvalue
    have hsafeg : g.Safe := hreplaces.grouped.arranged hsafe₁
    have hreduced := reducesTo_alone hctx (outcome?_of_faithful hsafeg.faithful hw) (by omega)
    obtain rfl : v = w := hgroup.unique hctx hreduced
    have hx₂ : e₂.value? = some x := (hreplaces.grouped.value?_eq hw).trans hx
    exact ⟨x, reducesTo_of_outcome? hctx (outcome?_of_faithful hsafe₁.faithful hx) (by omega),
      reducesTo_of_outcome? hctx (outcome?_of_faithful (hreplaces.faithful hsafe₁) hx₂) (by omega)⟩
  · intro h
    by_contra hsafe
    obtain ⟨e₁, e₂, g, v, hdiffer⟩ := breaks_of_not_safe hsafe
    obtain ⟨a, u, -, -, hfirst, hrest⟩ := hdiffer.value
    obtain ⟨u₁, u₂, -, -, hne, houtcome⟩ := hdiffer.outcome
    obtain ⟨houtcome₁, houtcome₂⟩ := houtcome scan? leading_scan?
    have hlength := hdiffer.alike.length_pieces
    obtain ⟨hlengthg, hlength₂⟩ := hdiffer.replaces.length_le
    have hvalue : e₁.value? = some u := by
      rw [value?_eq, hfirst]
      exact hrest
    obtain ⟨x, hx₁, hx₂⟩ := h e₁ e₂ g v hdiffer.alike (by rw [hvalue]; rfl) hdiffer.replaces
      (reducesTo_alone hctx hdiffer.group (by omega))
    have h₁ := hx₁.unique hctx (reducesTo_of_outcome? hctx houtcome₁ (by omega))
    have h₂ := hx₂.unique hctx (reducesTo_of_outcome? hctx houtcome₂ (by omega))
    exact hne (h₁.symm.trans h₂)

/-- `( 2 + 3 ) * 4` and `5 * 4` are reduced to the same number. -/
theorem exists_reducesTo_product :
    ∃ x, ReducesTo .bare
        ⟨.group (.number 2) (.cons plus (.number 3) .nil), .cons times (.number 4) .nil⟩ x
      ∧ ReducesTo .bare ⟨.number 5, .cons times (.number 4) .nil⟩ x := by
  let g : Formula := ⟨.number 2, .cons plus (.number 3) .nil⟩
  let e : Formula := ⟨g.grouped, .cons times (.number 4) .nil⟩
  have hctx : Context.bare.grammar = .standard := rfl
  have hsum : g.outcome? = some 5 := by decide +kernel
  have hvalue : e.value?.isSome := by decide +kernel
  have hsafe : e.Safe := by
    refine ⟨⟨trivial, ⟨trivial, trivial⟩, trivial, ?_, trivial⟩, ⟨trivial, trivial⟩, ?_, ?_, trivial⟩
    · exact fun _ => ⟨by simp [Operations.factors], by simp [Operations.factors]⟩
    · exact .inl (Nat.le_refl 1)
    · exact fun h => absurd h (by decide)
  have halike : e.Alike e := ⟨⟨trivial, rfl, trivial, trivial⟩, rfl, trivial, trivial⟩
  exact (safe_iff_forall_replaces hctx (by decide)).mp hsafe e _ g 5 halike hvalue (.first .here)
    (reducesTo_alone hctx hsum (by decide))

/-- `1 + 2 * ( 3 + 4 )` is reduced to 21, though `( 3 + 4 )` is reduced to 7 and `1 + 2 * 7` to 15:
while there is no number between the brackets, one and two are added. -/
theorem reducesTo_unsafe :
    ∃ e e' g : Formula, e.value? = some 15 ∧ Replaces g 7 e e'
      ∧ ReducesTo .bare ⟨g.grouped, .nil⟩ 7 ∧ e.ReducesTo .bare 21 ∧ e'.ReducesTo .bare 15 := by
  let g : Formula := ⟨.number 3, .cons plus (.number 4) .nil⟩
  let e : Formula := ⟨.number 1, .cons plus (.number 2) (.cons times g.grouped .nil)⟩
  let e' : Formula := ⟨.number 1, .cons plus (.number 2) (.cons times (.number 7) .nil)⟩
  have hctx : Context.bare.grammar = .standard := rfl
  have hgroup : g.outcome? = some 7 := by decide +kernel
  have houtcome : e.outcome? = some 21 := by decide +kernel
  have houtcome' : e'.outcome? = some 15 := by decide +kernel
  exact ⟨e, e', g, by decide +kernel, .rest (.rest (.operand .here)),
    reducesTo_alone hctx hgroup (by decide), reducesTo_of_outcome? hctx houtcome (by decide),
    reducesTo_of_outcome? hctx houtcome' (by decide)⟩

end Formula

end ChatCommand

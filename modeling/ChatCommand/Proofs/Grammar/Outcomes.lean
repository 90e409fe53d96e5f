/-
What the rules make of their arguments.

* `Times.exists_eq_result`, `Arithmetic.exists_eq_result`: every rule for times makes a time, every
  rule of arithmetic a number;
* `Joining.unite_eq_some`, `Joining.narrow_eq_some`, `Joining.withSpeaker_eq_some`,
  `Joining.keepFirst_eq_some`, `Joining.keepLast_eq_some`: the token of each way to join, with the
  arguments it comes from;
* `Filters.condition_eq_some`: a comparison becomes a condition on the same property;
* `Filters.condition_or_selects`: a rule for filters makes such a condition, or a part of the players
  of its first argument.
-/
import Mathlib.Tactic.Common
import ChatCommand.Grammar.Standard

namespace ChatCommand

variable {state : State} {b : Binding} {t : Token}

/-! ### Times -/

namespace Times

lemma unitAmount_eq_result (h : unitAmount state b = some t) : ∃ p, t = result b p := by
  unfold unitAmount at h
  split at h
  · simp [Option.bind_eq_some_iff] at h
    grind
  · simp at h

lemma everyUnit_eq_result (h : everyUnit state b = some t) : ∃ p, t = result b p := by
  unfold everyUnit at h
  split at h
  · simp [Option.bind_eq_some_iff] at h
    grind
  · simp at h

lemma hourMeridiem_eq_result (h : hourMeridiem state b = some t) : ∃ p, t = result b p := by
  unfold hourMeridiem at h
  split at h
  · simp [Option.bind_eq_some_iff] at h
    grind
  · simp at h

lemma timeMeridiem_eq_result (h : timeMeridiem state b = some t) : ∃ p, t = result b p := by
  unfold timeMeridiem at h
  split at h
  · simp [Option.bind_eq_some_iff] at h
    grind
  · simp at h

lemma atHour_eq_result (h : atHour state b = some t) : ∃ p, t = result b p := by
  unfold atHour at h
  split at h
  · simp [Option.bind_eq_some_iff] at h
    grind
  · simp at h

lemma modify_eq_result (h : modify state b = some t) : ∃ p, t = result b p := by
  unfold modify at h
  split at h
  · simp [Option.bind_eq_some_iff] at h
    grind
  · simp at h

lemma merge_eq_result (h : merge state b = some t) : ∃ p, t = result b p := by
  simp only [merge, Option.bind_eq_bind, Option.bind_eq_some_iff, Option.some.injEq] at h
  obtain ⟨-, -, -, -, -, -, -, -, p, -, rfl⟩ := h
  exact ⟨p, rfl⟩

/-- Every rule for times makes a time. -/
lemma exists_eq_result {r : Rule} (hr : r ∈ rules) (h : r.outcome state b = some t) :
    ∃ p, t = result b p := by
  simp only [rules, List.mem_cons, List.not_mem_nil, or_false] at hr
  rcases hr with rfl | rfl | rfl | rfl | rfl | rfl | rfl | rfl | rfl
  · exact @unitAmount_eq_result state b t h
  · exact @unitAmount_eq_result state b t h
  · exact @hourMeridiem_eq_result state b t h
  · exact @timeMeridiem_eq_result state b t h
  · exact @atHour_eq_result state b t h
  · exact @modify_eq_result state b t h
  · exact @everyUnit_eq_result state b t h
  · exact @merge_eq_result state b t h
  · exact @merge_eq_result state b t h

end Times

/-! ### Arithmetic -/

namespace Arithmetic

lemma compound_eq_result (h : compound state b = some t) : ∃ x, t = result b x := by
  unfold compound at h
  split at h
  · simp [Option.bind_eq_some_iff] at h
    grind
  · simp at h

lemma parentheses_eq_result (h : parentheses state b = some t) : ∃ x, t = result b x := by
  unfold parentheses at h
  split at h
  · obtain ⟨x, -, rfl⟩ := Option.map_eq_some_iff.mp h
    exact ⟨x, rfl⟩
  · simp at h

lemma binary_eq_result (h : binary state b = some t) : ∃ x, t = result b x := by
  unfold binary at h
  split at h
  · split at h
    · simp only [Option.bind_eq_bind, Option.bind_eq_some_iff, Option.map_eq_some_iff] at h
      obtain ⟨-, -, -, -, x, -, rfl⟩ := h
      exact ⟨x, rfl⟩
    · simp at h
  · simp at h

/-- Every rule of arithmetic makes a number. -/
lemma exists_eq_result {r : Rule} (hr : r ∈ rules) (h : r.outcome state b = some t) :
    ∃ x, t = result b x := by
  simp only [rules, List.mem_cons, List.not_mem_nil, or_false] at hr
  rcases hr with rfl | rfl | rfl | rfl
  · exact @compound_eq_result state b t h
  · exact @parentheses_eq_result state b t h
  · exact @binary_eq_result state b t h
  · exact @binary_eq_result state b t h

end Arithmetic

/-! ### Joining -/

namespace Joining

lemma unite_eq_some (h : unite state b = some t) :
    ∃ left word right v w both, b.tokens = [left, word, right] ∧ left.value = some v
      ∧ right.value = some w ∧ v.union? w = some both
      ∧ t = b.produce left.variant (some both) := by
  simp only [unite, Option.bind_eq_bind, Option.bind_eq_some_iff, Option.some.injEq] at h
  obtain ⟨⟨left, right⟩, hargs, v, hv, w, hw, both, hboth, rfl⟩ := h
  split at hargs
  · next l word r htokens =>
      obtain ⟨rfl, rfl⟩ := Prod.mk.inj (Option.some.inj hargs)
      exact ⟨_, word, _, v, w, both, htokens, hv, hw, hboth, rfl⟩
  · contradiction

lemma narrow_eq_some (h : narrow state b = some t) :
    ∃ left right v w meant, b.tokens = [left, right] ∧ left.value = some v
      ∧ right.value = some w ∧ narrow? v w = some meant
      ∧ t = b.produce left.variant (some meant) := by
  simp only [narrow, Option.bind_eq_bind, Option.bind_eq_some_iff, Option.some.injEq] at h
  obtain ⟨⟨left, right⟩, hargs, v, hv, w, hw, meant, hmeant, rfl⟩ := h
  split at hargs
  · next l r htokens =>
      obtain ⟨rfl, rfl⟩ := Prod.mk.inj (Option.some.inj hargs)
      exact ⟨_, _, v, w, meant, htokens, hv, hw, hmeant, rfl⟩
  · contradiction

lemma withSpeaker_eq_some (h : withSpeaker state b = some t) :
    ∃ left word right players speaker, b.tokens = [left, word, right]
      ∧ left.meantPlayers? state.speaker = some players
      ∧ right.meantPlayers? state.speaker = some speaker
      ∧ t = b.produce (.thing .player)
          (some (.players (unionBy samePlayer players speaker))) := by
  simp only [withSpeaker, Option.bind_eq_bind, Option.bind_eq_some_iff, Option.some.injEq] at h
  obtain ⟨⟨left, right⟩, hargs, players, hplayers, speaker, hspeaker, rfl⟩ := h
  split at hargs
  · next l word r htokens =>
      obtain ⟨rfl, rfl⟩ := Prod.mk.inj (Option.some.inj hargs)
      exact ⟨_, word, _, players, speaker, htokens, hplayers, hspeaker, rfl⟩
  · contradiction

lemma keepFirst_eq_some (h : keepFirst state b = some t) :
    ∃ first, b.tokens.head? = some first
      ∧ t = { b.produce first.variant none with name := first.name } := by
  simp only [keepFirst, Option.bind_eq_bind, Option.bind_eq_some_iff, Option.some.injEq] at h
  obtain ⟨first, hfirst, rfl⟩ := h
  exact ⟨first, hfirst, rfl⟩

lemma keepLast_eq_some (h : keepLast state b = some t) :
    ∃ last, b.tokens.getLast? = some last
      ∧ t = { b.produce last.variant last.value with name := last.name } := by
  simp only [keepLast, Option.bind_eq_bind, Option.bind_eq_some_iff, Option.some.injEq] at h
  obtain ⟨last, hlast, rfl⟩ := h
  exact ⟨last, hlast, rfl⟩

/-- Behind a word for all of a kind the last argument stays. -/
lemma keepLast_of_keepQuantified (h : keepQuantified state b = some t) :
    keepLast state b = some t := by
  simp only [keepQuantified, Option.bind_eq_bind, Option.bind_eq_some_iff] at h
  obtain ⟨first, -, h⟩ := h
  split at h <;> first | exact h | contradiction

end Joining

/-! ### Selecting players -/

namespace Filters

lemma condition_eq_some (h : condition state b = some t) :
    ∃ left middle right property operator operand, b.tokens = [left, middle, right]
      ∧ left.variant = .numericProperty property ∧ right.number? = some operand
      ∧ t = b.produce left.variant (some (.condition { property, operator, operand })) := by
  unfold condition at h
  split at h
  · next left middle right htokens =>
      split at h
      · next property operator hvariant _ _ =>
          simp only [Option.bind_eq_bind, Option.bind_eq_some_iff, Option.some.injEq] at h
          obtain ⟨operand, hoperand, rfl⟩ := h
          exact ⟨left, middle, right, property, operator, operand, htokens, hvariant, hoperand, rfl⟩
      · contradiction
  · contradiction

/-- The token stands for a part of the players of the first argument. -/
def Selects (b : Binding) (t : Token) : Prop :=
  ∃ set others players keep, b.tokens = set :: others ∧ set.players? = some players
    ∧ t = result b (players.filter keep)

lemma meeting_eq_some {set last : Token} (h : meeting b set last = some t) :
    ∃ players keep, set.players? = some players ∧ t = result b (players.filter keep) := by
  simp only [meeting, Option.bind_eq_bind, Option.bind_eq_some_iff] at h
  obtain ⟨v, -, h⟩ := h
  split at h
  · simp only [Option.bind_eq_some_iff, Option.some.injEq] at h
    obtain ⟨players, hplayers, rfl⟩ := h
    exact ⟨players, _, hplayers, rfl⟩
  · contradiction

lemma selects_of_byCondition (h : byCondition state b = some t) : Selects b t := by
  unfold byCondition at h
  split at h
  · next set last htokens =>
      obtain ⟨players, keep, hplayers, rfl⟩ := meeting_eq_some h
      exact ⟨set, _, players, keep, htokens, hplayers, rfl⟩
  · next set word last htokens =>
      split at h
      · obtain ⟨players, keep, hplayers, rfl⟩ := meeting_eq_some h
        exact ⟨set, _, players, keep, htokens, hplayers, rfl⟩
      · contradiction
  · contradiction

lemma selects_of_byItem (h : byItem state b = some t) : Selects b t := by
  unfold byItem at h
  split at h
  · next set word last htokens =>
      by_cases hword : isPreposition word [.with]
      · simp only [hword, Bool.not_true, Bool.false_eq_true, if_false] at h
        split at h
        · simp only [Option.bind_eq_bind, Option.bind_eq_some_iff, Option.some.injEq] at h
          obtain ⟨players, hplayers, rfl⟩ := h
          exact ⟨set, _, players, _, htokens, hplayers, rfl⟩
        · contradiction
      · simp [hword] at h
  · contradiction

lemma selects_of_byLocation (h : byLocation state b = some t) : Selects b t := by
  unfold byLocation at h
  split at h
  · next set word last htokens =>
      by_cases hword : isPreposition word [.from, .in]
      · simp only [hword, Bool.not_true, Bool.false_eq_true, if_false] at h
        split at h
        · simp only [Option.bind_eq_bind, Option.bind_eq_some_iff, Option.some.injEq] at h
          obtain ⟨players, hplayers, rfl⟩ := h
          exact ⟨set, _, players, _, htokens, hplayers, rfl⟩
        · contradiction
      · simp [hword] at h
  · contradiction

lemma selects_of_without (h : without state b = some t) : Selects b t := by
  unfold without at h
  split at h
  · next set word last htokens =>
      by_cases hword : isPreposition word [.except]
      · simp only [hword, Bool.not_true, Bool.false_eq_true, if_false, Option.bind_eq_bind,
          Option.bind_eq_some_iff, Option.some.injEq] at h
        obtain ⟨excluded, -, players, hplayers, rfl⟩ := h
        exact ⟨set, _, players, _, htokens, hplayers, rfl⟩
      · simp [hword] at h
  · contradiction

/-- A rule for filters makes a condition on a property, or a part of the players of its first
argument. -/
lemma condition_or_selects {r : Rule} (hr : r ∈ rules) (h : r.outcome state b = some t) :
    condition state b = some t ∨ Selects b t := by
  simp only [rules, List.mem_cons, List.not_mem_nil, or_false] at hr
  rcases hr with rfl | rfl | rfl | rfl | rfl | rfl
  · exact .inl h
  · exact .inr (@selects_of_byCondition state b t h)
  · exact .inr (@selects_of_byCondition state b t h)
  · exact .inr (@selects_of_byItem state b t h)
  · exact .inr (@selects_of_byLocation state b t h)
  · exact .inr (selects_of_without h)

end Filters

end ChatCommand

/-
Lower bars accept more.

The bars are exact numbers here, so that the bar for the name of a player is exactly the number
between the lower and the upper bar.

* `Thresholds.IsBelow`: no bar of some thresholds is higher than that of others;
* `Thresholds.playerBar_mono`, `Thresholds.playerBar_mem`: the bar for players ascends with the
  thresholds and with the length of the name, between the lower and the upper bar;
* `sublist_filterMap`: a test that accepts more keeps more, in the same order;
* `Names.sublist_players`, `Names.sublist_maps`, `Names.sublist_countries`, `Names.sublist_methods`,
  `Names.sublist_similarItems`: what higher bars accept, lower ones accept;
* `Names.sublist_of_isBelow`: **with higher bars the same tokens remain, but fewer**.
-/
import ChatCommand.Proofs.Similarity.Exact
import ChatCommand.Recognition.Names

namespace ChatCommand

/-! ### Thresholds -/

namespace Thresholds

variable {A B t : Thresholds ℚ} {length length' : Nat}

/-- No bar of the first thresholds is higher than that of the second. -/
structure IsBelow (A B : Thresholds ℚ) : Prop where
  playerLower : A.playerLower ≤ B.playerLower
  playerUpper : A.playerUpper ≤ B.playerUpper
  map : A.map ≤ B.map
  country : A.country ≤ B.country
  item : A.item ≤ B.item
  method : A.method ≤ B.method
  alternateMethod : A.alternateMethod ≤ B.alternateMethod

lemma playerBar_le_of_isBelow (h : A.IsBelow B) (length longest : Nat) :
    A.playerBar length longest ≤ B.playerBar length longest := by
  obtain ⟨h0, h1⟩ := shareOf_mem length longest
  exact interpolate_mono h.playerLower h.playerUpper h0 h1

/-- Longer names need no less. -/
lemma playerBar_mono (ht : t.playerLower ≤ t.playerUpper) (longest : Nat) :
    Monotone fun length => t.playerBar length longest :=
  fun _ _ h => interpolate_mono_share ht (shareOf_mono h)

/-- The bar lies between the lower and the upper one, for names of any length. -/
lemma playerBar_mem (ht : t.playerLower ≤ t.playerUpper) (length longest : Nat) :
    t.playerLower ≤ t.playerBar length longest ∧ t.playerBar length longest ≤ t.playerUpper := by
  obtain ⟨h0, h1⟩ := shareOf_mem length longest
  have hlower : interpolate t.playerLower t.playerUpper 0 = t.playerLower := by
    rw [interpolate_eq]
    ring
  have hupper : interpolate t.playerLower t.playerUpper 1 = t.playerUpper := by
    rw [interpolate_eq]
    ring
  exact ⟨hlower.symm.trans_le (interpolate_mono_share ht h0),
    (interpolate_mono_share ht h1).trans_eq hupper⟩

end Thresholds

/-- What reaches a bar reaches every lower one. -/
lemma reachedBy_of_le {bar bar' : ℚ} (h : bar ≤ bar') {s : Score}
    (hs : Bar.reachedBy bar' s = true) : Bar.reachedBy bar s = true :=
  decide_eq_true (h.trans (of_decide_eq_true hs))

/-- Where one function gives what another gives, or nothing, it gives fewer results for a list. -/
lemma sublist_filterMap {α β : Type} {f g : α → Option β} (l : List α)
    (h : ∀ a ∈ l, ∀ b, f a = some b → g a = some b) : (l.filterMap f).Sublist (l.filterMap g) := by
  induction l with
  | nil => exact .slnil
  | cons a l ih =>
      have hrest := ih fun b hb => h b (List.mem_cons_of_mem _ hb)
      cases hf : f a with
      | none =>
          rw [List.filterMap_cons_none hf, List.filterMap_cons]
          split
          · exact hrest
          · exact hrest.cons _
      | some b =>
          rw [List.filterMap_cons_some hf, List.filterMap_cons_some (h a List.mem_cons_self b hf)]
          exact hrest.cons_cons b

namespace Names

variable {A B : Thresholds ℚ} (h : A.IsBelow B) (state : State) (text : String)

/-! ### Recognized names -/

/-- A token that is given to what reaches a bar is given to it for a lower bar. -/
lemma eq_some_of_le {bar bar' : ℚ} (h : bar ≤ bar') {score : Score} {t u : Token}
    (hu : (if Bar.reachedBy bar' score = true then some t else none) = some u) :
    (if Bar.reachedBy bar score = true then some t else none) = some u := by
  rw [Option.ite_none_right_eq_some] at hu ⊢
  exact ⟨reachedBy_of_le h hu.1, hu.2⟩

include h

lemma sublist_players : (players B state text).Sublist (players A state text) :=
  sublist_filterMap _ fun _ _ _ => eq_some_of_le (Thresholds.playerBar_le_of_isBelow h _ _)

lemma sublist_maps : (maps B state text).Sublist (maps A state text) :=
  sublist_filterMap _ fun _ _ _ => eq_some_of_le h.map

lemma sublist_countries : (countries B state text).Sublist (countries A state text) :=
  sublist_filterMap _ fun _ _ _ => eq_some_of_le h.country

lemma sublist_methods : (methods B state text).Sublist (methods A state text) :=
  sublist_filterMap _ fun _ _ _ => eq_some_of_le h.method

lemma sublist_similarItems : (similarItems B state text).Sublist (similarItems A state text) :=
  List.monotone_filter_right _ fun _ => reachedBy_of_le h.item

/-- The token of items lists fewer with higher bars, but there is one where there was one. -/
lemma exists_items {t : Token} (ht : items B state text = some t) :
    t.value = some (.items (similarItems B state text))
      ∧ ∃ u, items A state text = some u
        ∧ u.value = some (.items (similarItems A state text)) := by
  have hsublist := sublist_similarItems h state text
  simp only [items, Option.ite_none_left_eq_some, Option.some.injEq] at ht
  obtain ⟨hne, rfl⟩ := ht
  have hne' : ¬(similarItems A state text).isEmpty = true := by
    rw [List.isEmpty_iff] at hne ⊢
    exact fun hnil => hne (List.sublist_nil.mp (hnil ▸ hsublist))
  exact ⟨rfl, _, if_neg hne', rfl⟩

omit h

/-- **Higher bars accept less.** With higher bars every list of tokens for players, maps, countries
and commands is that of lower bars without some of its tokens, which are the same otherwise, and
so is the list of items of the token for items. The bar for the name of a player does not descend
with its length and lies between the lower and the upper bar. -/
theorem sublist_of_isBelow :
    (∀ A B : Thresholds ℚ, A.IsBelow B → ∀ (state : State) (text : String),
      (players B state text).Sublist (players A state text)
        ∧ (maps B state text).Sublist (maps A state text)
        ∧ (countries B state text).Sublist (countries A state text)
        ∧ (methods B state text).Sublist (methods A state text)
        ∧ ∀ t, items B state text = some t → ∃ u found found', items A state text = some u
          ∧ t.value = some (.items found) ∧ u.value = some (.items found')
          ∧ found.Sublist found')
      ∧ ∀ t : Thresholds ℚ, t.playerLower ≤ t.playerUpper → ∀ longest,
        (Monotone fun length => t.playerBar length longest)
          ∧ ∀ length, t.playerLower ≤ t.playerBar length longest
            ∧ t.playerBar length longest ≤ t.playerUpper := by
  refine ⟨fun A B h state text => ⟨sublist_players h state text, sublist_maps h state text,
    sublist_countries h state text, sublist_methods h state text, fun t ht => ?_⟩,
    fun t ht longest => ⟨Thresholds.playerBar_mono ht longest,
      fun length => Thresholds.playerBar_mem ht length longest⟩⟩
  obtain ⟨hvalue, u, hu, hvalue'⟩ := exists_items h state text ht
  exact ⟨u, _, _, hu, hvalue, hvalue', sublist_similarItems h state text⟩

/-- A name that is written in full is recognized, but not where more than full agreement is asked of
players. -/
theorem sublist_strict_unreachable :
    ∃ (unreachable : Thresholds ℚ) (state : State) (text : String),
      Thresholds.strict.IsBelow unreachable
        ∧ (players unreachable state text).length = 0
        ∧ (players (.strict : Thresholds ℚ) state text).length = 1
        ∧ (players unreachable state text).Sublist (players (.strict : Thresholds ℚ) state text)
        ∧ unreachable.playerLower ≤ unreachable.playerUpper
        ∧ Monotone fun length => unreachable.playerBar length 0 := by
  let unreachable : Thresholds ℚ := { Thresholds.strict with playerLower := 101, playerUpper := 102 }
  let state : State := { players := [{ uid := "1", name := "Phogue" }], now := ⟨0⟩ }
  have hbelow : Thresholds.strict.IsBelow unreachable := by
    constructor <;> decide
  have hbars : unreachable.playerLower ≤ unreachable.playerUpper := by
    decide
  obtain ⟨hsublist, hbar⟩ := sublist_of_isBelow
  exact ⟨unreachable, state, "phogue", hbelow, by decide +kernel, by decide +kernel,
    (hsublist _ _ hbelow state "phogue").1, hbars, (hbar _ hbars 0).1⟩

end Names

end ChatCommand

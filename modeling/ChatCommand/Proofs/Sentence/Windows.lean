/-
The first neighbours that a rule takes, found along the sentence.

* `Sentence.applyFirst?`: the sentence after the first of some rules has been applied to the first
  neighbours that it takes, by recursion on the sentence;
* `Sentence.map_splice_reductionBy?`: this is what the search through all places finds;
* `Sentence.applyFirst?_of_eq_some`, `Sentence.applyFirst?_of_eq_none`: the search ends or goes on;
* `Sentence.exists_of_applyFirst?`: one phrase has come in the place of neighbours.
-/
import Mathlib.Tactic.Common
import ChatCommand.Sentence.Reduction

namespace ChatCommand

namespace Sentence

/-- The sentence after the first of some rules has been applied to the first neighbours that it
takes, where all rules take `count` of them. -/
def applyFirst? (state : State) (rules : List Rule) (count : Nat) : Sentence → Option Sentence
  | [] => none
  | p :: s =>
    if count ≤ s.length + 1 then
      match rules.findSome? (·.token? state ((p :: s).take count)) with
      | some t => some (.ofToken (joinText ((p :: s).take count)) t :: (p :: s).drop count)
      | none => (applyFirst? state rules count s).map (p :: ·)
    else none

variable {state : State} {rules : List Rule} {count : Nat}

/-- The places in a sentence are its start and those behind the first phrase. -/
lemma offsets_cons {p : Phrase} {s : Sentence} (h : count ≤ s.length + 1) :
    offsets (p :: s) count = 0 :: (offsets s count).map (· + 1) := by
  have hrange : offsets (p :: s) count = List.range (s.length + 1 - count + 1) := by
    rw [offsets, List.length_cons, if_pos h]
  rw [hrange, List.range_succ_eq_map, offsets]
  split
  · next hs => rw [show s.length + 1 - count = s.length - count + 1 by omega]
  · next hs => rw [show s.length + 1 - count = 0 by omega]; rfl

/-- What is done behind the first phrase leaves that phrase in front. -/
lemma map_splice_reductionAt?_succ (p : Phrase) (s : Sentence) (offset : Nat) :
    (reductionAt? state rules (p :: s) count (offset + 1)).map (splice (p :: s))
      = ((reductionAt? state rules s count offset).map s.splice).map (p :: ·) := by
  have hwindow : window (p :: s) (offset + 1) count = window s offset count := rfl
  rw [reductionAt?, reductionAt?, hwindow]
  cases rules.findSome? (·.token? state (window s offset count)) with
  | none => rfl
  | some t =>
      simp only [Option.map_some, splice, List.take_succ_cons, List.cons_append]
      rw [show offset + 1 + count = offset + count + 1 by omega, List.drop_succ_cons]

/-- The search through all places is the search along the sentence. -/
lemma map_splice_findSome?_reductionAt? (h0 : 0 < count) (s : Sentence) :
    ((s.offsets count).findSome? (reductionAt? state rules s count)).map s.splice
      = applyFirst? state rules count s := by
  induction s with
  | nil =>
      have hoffsets : offsets [] count = [] := by
        rw [offsets, if_neg (by simp only [List.length_nil]; omega)]
      rw [hoffsets]
      rfl
  | cons p s ih =>
      rw [applyFirst?]
      split
      · next h =>
          rw [offsets_cons h, List.findSome?_cons]
          have hat : reductionAt? state rules (p :: s) count 0
              = (rules.findSome? (·.token? state ((p :: s).take count))).map fun t =>
                  { offset := 0, count, phrase := .ofToken (joinText ((p :: s).take count)) t } :=
            rfl
          rw [hat]
          cases rules.findSome? (·.token? state ((p :: s).take count)) with
          | some t => simp [splice]
          | none =>
              simp only [Option.map_none]
              rw [← ih, List.findSome?_map, List.map_findSome?, List.map_findSome?,
                List.map_findSome?]
              exact congrArg (List.findSome? · (offsets s count))
                (funext fun offset => map_splice_reductionAt?_succ p s offset)
      · next h =>
          rw [offsets, if_neg (by simpa using h)]
          rfl

/-- A reduction by rules of a tier that take so many phrases applies the first of them to the first
neighbours that it takes. -/
theorem map_splice_reductionBy? (ctx : Context) (s : Sentence) (tier : Tier) (h0 : 0 < count) :
    (s.reductionBy? ctx tier count).map s.splice
      = applyFirst? ctx.state (ctx.grammar.rulesOf tier count) count s :=
  map_splice_findSome?_reductionAt? h0 s

/-- Rules that take no neighbours leave the sentence alone. -/
lemma applyFirst?_eq_none {s : Sentence}
    (h : ∀ offset, rules.findSome? (·.token? state (s.window offset count)) = none) :
    applyFirst? state rules count s = none := by
  induction s with
  | nil => rfl
  | cons p s ih =>
      have hhead : rules.findSome? (·.token? state ((p :: s).take count)) = none := h 0
      have htail : applyFirst? state rules count s = none := ih fun offset => h (offset + 1)
      rw [applyFirst?]
      split
      · rw [hhead, htail]
        rfl
      · rfl

/-- The search ends in front, where a rule takes the phrases that stand there. -/
lemma applyFirst?_of_eq_some {p : Phrase} {rest : List Phrase} (hcount : rest.length + 1 = count)
    {t : Token} (h : rules.findSome? (·.token? state (p :: rest)) = some t) (s : Sentence) :
    applyFirst? state rules count (p :: rest ++ s)
      = some (.ofToken (joinText (p :: rest)) t :: s) := by
  subst hcount
  have htake : (p :: (rest ++ s)).take (rest.length + 1) = p :: rest := by simp
  have hdrop : (p :: (rest ++ s)).drop (rest.length + 1) = s := by simp
  rw [List.cons_append, applyFirst?, if_pos (by simp), htake, h, hdrop]

/-- The search goes on behind a phrase, if no rule takes the phrases that begin there. -/
lemma applyFirst?_of_eq_none {p : Phrase} {s : Sentence}
    (h : rules.findSome? (·.token? state ((p :: s).take count)) = none) :
    applyFirst? state rules count (p :: s) = (applyFirst? state rules count s).map (p :: ·) := by
  rw [applyFirst?, h]
  split
  · rfl
  · next hlong =>
      cases s with
      | nil => rfl
      | cons q s => rw [applyFirst?, if_neg (by simp only [List.length_cons] at hlong; omega)]; rfl

/-- One phrase has come in the place of `count` neighbours, with their text. -/
lemma exists_of_applyFirst? {s s' : Sentence} (h : applyFirst? state rules count s = some s') :
    ∃ before window after t, s = before ++ (window ++ after) ∧ window.length = count
      ∧ s' = before ++ .ofToken (joinText window) t :: after := by
  induction s generalizing s' with
  | nil => contradiction
  | cons p s ih =>
      rw [applyFirst?] at h
      split at h
      · next hlength =>
          split at h
          · next t _ =>
              obtain rfl := Option.some.inj h
              refine ⟨[], (p :: s).take count, (p :: s).drop count, t, ?_, ?_, rfl⟩
              · rw [List.nil_append, List.take_append_drop]
              · rw [List.length_take, List.length_cons]
                omega
          · obtain ⟨rest, hrest, rfl⟩ := Option.map_eq_some_iff.mp h
            obtain ⟨before, window, after, t, rfl, hcount, rfl⟩ := ih hrest
            exact ⟨p :: before, window, after, t, rfl, hcount, rfl⟩
      · contradiction

end Sentence

end ChatCommand

/-
What one step makes of a sentence.

* `Context.merge?_eq_some_iff`: when neighbours merge, and into what;
* `Sentence.forall_mem_replace`: what holds of all phrases holds after one of which it holds has
  come in the place of others;
* `Sentence.exists_of_mergeStep?`: a merge puts a phrase that is read from the text of two or more
  neighbours in their place;
* `Sentence.exists_of_reductionStep?`: a reduction puts a phrase with the token of a rule in the
  place of as many neighbours as the rule takes.
-/
import Mathlib.Tactic.Common
import ChatCommand.Sentence.Parse

namespace ChatCommand

variable {ctx : Context} {stage : Stage}

/-- Neighbours merge into what is read from their text, if its preferred reading is at least as
similar as that of any of them. -/
lemma Context.merge?_eq_some_iff {window : List Phrase} {p : Phrase} :
    ctx.merge? stage window = some p ↔
      p = ctx.tokenizeText stage (joinText window)
        ∧ ∃ best ∈ p.best?,
          Score.greatest (window.map Phrase.bestSimilarity) ≤ best.similarity := by
  constructor
  · intro h
    simp only [merge?] at h
    split at h
    · next best hbest =>
        split at h
        · next hle =>
            obtain rfl := Option.some.inj h
            exact ⟨rfl, best, hbest, hle⟩
        · contradiction
    · contradiction
  · rintro ⟨rfl, best, hbest, hle⟩
    simp only [merge?, Option.mem_def.mp hbest, if_pos hle]

namespace Sentence

variable {s s' : Sentence}

/-- What holds of some phrases and of one in the place of neighbours holds of all after that. -/
lemma forall_mem_replace {P : Phrase → Prop} {before window after : List Phrase} {p : Phrase}
    (hs : ∀ q ∈ before ++ (window ++ after), P q) (hp : P p) : ∀ q ∈ before ++ p :: after, P q := by
  simp only [List.forall_mem_append, List.forall_mem_cons] at hs ⊢
  exact ⟨hs.1, hp, hs.2.2⟩

/-- A splice at a place of the sentence: what stands before and behind it stays. -/
lemma exists_of_splice (r : Splice) (h : r.offset + r.count ≤ s.length) :
    ∃ before after, s = before ++ (s.window r.offset r.count ++ after)
      ∧ (s.window r.offset r.count).length = r.count
      ∧ s.splice r = before ++ r.phrase :: after := by
  refine ⟨s.take r.offset, s.drop (r.offset + r.count), ?_, ?_, rfl⟩
  · rw [← List.append_assoc, take_append_window_append_drop]
  · rw [length_window]
    omega

/-- The places of a merge are those of two or more neighbours. -/
lemma mem_mergePlaces {offset count : Nat} :
    (offset, count) ∈ s.mergePlaces ↔ 2 ≤ count ∧ offset + count ≤ s.length := by
  simp only [mergePlaces, List.mem_flatMap, List.mem_range'_1, List.mem_map, mem_offsets,
    Prod.mk.injEq]
  constructor
  · rintro ⟨count', ⟨h2, -⟩, offset', hplace, rfl, rfl⟩
    exact ⟨h2, hplace⟩
  · rintro ⟨h2, hplace⟩
    exact ⟨count, ⟨h2, by omega⟩, offset, hplace, rfl, rfl⟩

/-- The first merge that is found is one of two or more neighbours. -/
lemma merge?_of_findMerge? {r : Splice} (h : s.findMerge? ctx stage = some r) :
    2 ≤ r.count ∧ r.offset + r.count ≤ s.length
      ∧ ctx.merge? stage (s.window r.offset r.count) = some r.phrase := by
  obtain ⟨⟨offset, count⟩, hplace, hfound⟩ := List.exists_of_findSome?_eq_some h
  obtain ⟨p, hp, rfl⟩ := Option.map_eq_some_iff.mp hfound
  obtain ⟨h2, hfits⟩ := mem_mergePlaces.mp hplace
  exact ⟨h2, hfits, hp⟩

/-- **One merge**: two or more neighbours have become what they merge into. -/
theorem exists_of_mergeStep? (h : s.mergeStep? ctx stage = some s') :
    ∃ before window after p, s = before ++ (window ++ after) ∧ 2 ≤ window.length
      ∧ ctx.merge? stage window = some p ∧ s' = before ++ p :: after := by
  obtain ⟨r, hr, rfl⟩ := Option.map_eq_some_iff.mp h
  obtain ⟨h2, hfits, hp⟩ := merge?_of_findMerge? hr
  obtain ⟨before, after, hs, hlength, hsplice⟩ := exists_of_splice r hfits
  exact ⟨before, s.window r.offset r.count, after, r.phrase, hs, by omega, hp, hsplice⟩

/-- The first reduction that is found is the token of a rule, in the place of what it takes. -/
lemma exists_of_findReduction? {r : Splice} (h : s.findReduction? ctx = some r) :
    ∃ rule ∈ ctx.grammar.rules, ∃ t, rule.arity = r.count ∧ r.offset + r.count ≤ s.length
      ∧ rule.token? ctx.state (s.window r.offset r.count) = some t
      ∧ r.phrase = .ofToken (joinText (s.window r.offset r.count)) t := by
  obtain ⟨tier, -, htier⟩ := List.exists_of_findSome?_eq_some h
  obtain ⟨count, -, hcount⟩ := List.exists_of_findSome?_eq_some htier
  obtain ⟨offset, hoffset, hat⟩ := List.exists_of_findSome?_eq_some hcount
  obtain ⟨t, ht, rfl⟩ := Option.map_eq_some_iff.mp hat
  obtain ⟨rule, hrule, htoken⟩ := List.exists_of_findSome?_eq_some ht
  obtain ⟨hmem, harity⟩ := List.mem_filter.mp hrule
  have harity : rule.arity = count := by simpa using (Bool.and_eq_true_iff.mp harity).2
  exact ⟨rule, hmem, t, harity, mem_offsets.mp hoffset, htoken, rfl⟩

/-- **One reduction**: as many neighbours as some rule takes have become the token that the rule
makes of them. -/
theorem exists_of_reductionStep? (h : s.reductionStep? ctx = some s') :
    ∃ before window after r t, s = before ++ (window ++ after) ∧ r ∈ ctx.grammar.rules
      ∧ window.length = r.arity ∧ r.token? ctx.state window = some t
      ∧ s' = before ++ .ofToken (joinText window) t :: after := by
  obtain ⟨r, hr, rfl⟩ := Option.map_eq_some_iff.mp h
  obtain ⟨rule, hrule, t, harity, hfits, htoken, hphrase⟩ := exists_of_findReduction? hr
  obtain ⟨before, after, hs, hlength, hsplice⟩ := exists_of_splice r hfits
  exact ⟨before, s.window r.offset r.count, after, rule, t, hs, hrule, hlength.trans harity.symm,
    htoken, hphrase ▸ hsplice⟩

end Sentence

end ChatCommand

/-
The order of the readings of a phrase.

* `Token.ranksBefore_iff`: which of two readings comes first;
* `filter_mergeSort`: elements may be taken out before sorting or after;
* `filter_head?_mergeSort`: the first after sorting is the first of the least before it;
* `pairwise_mergeSort_of_pairwise`: what holds of any two elements in order still holds of those
  that are equal in order;
* `Phrase.retain_extend`: **the readings of one kind are ranked as if there were no others**: what
  is kept of a phrase with more readings is what was kept of it, with what is kept of these;
* `Phrase.tokens_extend_of_distinct`: readings that mean different things are all there.
-/
import Mathlib.Tactic.Common
import ChatCommand.Phrase.Basic

namespace ChatCommand

/-! ### Ranks -/

namespace Token

/-- A reading comes before another if it is more similar, or as similar and no shorter. -/
lemma ranksBefore_iff {a b : Token} :
    a.ranksBefore b = true ↔
      b.similarity.position < a.similarity.position
        ∨ b.similarity.position = a.similarity.position
          ∧ b.text.utf8ByteSize ≤ a.text.utf8ByteSize := by
  rw [ranksBefore, bne_iff_ne, ne_eq, rank, Ordering.then_eq_gt, Nat.compare_eq_gt,
    Nat.compare_eq_eq, Nat.compare_eq_gt]
  omega

lemma ranksBefore_trans (a b c : Token) (hab : a.ranksBefore b = true)
    (hbc : b.ranksBefore c = true) : a.ranksBefore c = true := by
  rw [ranksBefore_iff] at *
  omega

lemma ranksBefore_total (a b : Token) : (a.ranksBefore b || b.ranksBefore a) = true := by
  rw [Bool.or_eq_true, ranksBefore_iff, ranksBefore_iff]
  omega

end Token

/-! ### Sorting and taking out -/

section Sorting

variable {α : Type} {le : α → α → Bool}

/-- Sorting one more element puts it behind those that must stand before it. -/
lemma mergeSort_cons_eq (trans : ∀ a b c, le a b = true → le b c = true → le a c = true)
    (total : ∀ a b, (le a b || le b a) = true) (a : α) (l : List α) :
    (a :: l).mergeSort le
      = (l.mergeSort le).filter (fun b => !le a b) ++ a :: (l.mergeSort le).filter (le a) := by
  obtain ⟨before, after, hcons, hrest, hbefore⟩ := List.mergeSort_cons trans total a l
  have hsorted := List.pairwise_mergeSort trans total (a :: l)
  rw [hcons, List.pairwise_append, List.pairwise_cons] at hsorted
  obtain ⟨-, ⟨hafter, -⟩, -⟩ := hsorted
  have hbefore' : ∀ b ∈ before, le a b = false := fun b hb => by simpa using hbefore b hb
  have hkept : (l.mergeSort le).filter (fun b => !le a b) = before := by
    rw [hrest, List.filter_append, List.filter_eq_self.mpr hbefore,
      List.filter_eq_nil_iff.mpr fun b hb => by simp [hafter b hb], List.append_nil]
  have hleft : (l.mergeSort le).filter (le a) = after := by
    rw [hrest, List.filter_append, List.filter_eq_self.mpr hafter,
      List.filter_eq_nil_iff.mpr fun b hb => by simp [hbefore' b hb], List.nil_append]
  rw [hkept, hleft, hcons]

/-- Elements may be taken out before sorting or after: those that are equal in order stay in the
order in which they were. -/
lemma filter_mergeSort (trans : ∀ a b c, le a b = true → le b c = true → le a c = true)
    (total : ∀ a b, (le a b || le b a) = true) (keep : α → Bool) (l : List α) :
    (l.mergeSort le).filter keep = (l.filter keep).mergeSort le := by
  induction l with
  | nil => simp
  | cons a l ih =>
      cases hkeep : keep a with
      | true =>
          rw [List.filter_cons_of_pos hkeep, mergeSort_cons_eq trans total a l,
            mergeSort_cons_eq trans total a (l.filter keep), ← ih, List.filter_append,
            List.filter_cons_of_pos hkeep]
          simp only [List.filter_filter, Bool.and_comm]
      | false =>
          obtain ⟨before, after, hcons, hrest, -⟩ := List.mergeSort_cons trans total a l
          have hdrop : ¬keep a = true := by simp [hkeep]
          rw [List.filter_cons_of_neg hdrop, ← ih, hcons, hrest, List.filter_append,
            List.filter_cons_of_neg hdrop, List.filter_append]

/-- Elements that may stand before all others, and before which no other may stand: one of them is
first after sorting if there is any, and it is the one that was first of them before. -/
lemma filter_head?_mergeSort (trans : ∀ a b c, le a b = true → le b c = true → le a c = true)
    (total : ∀ a b, (le a b || le b a) = true) {isLeast : α → Bool} {l : List α}
    (hleast : ∀ a ∈ l, isLeast a = true → ∀ b ∈ l, le b a = isLeast b) :
    (l.mergeSort le).head?.filter isLeast = l.find? isLeast := by
  have hties : (l.filter isLeast).Pairwise fun a b => le a b = true := by
    rw [List.pairwise_iff_forall_sublist]
    intro a b hab
    obtain ⟨ha, hb⟩ : a ∈ l.filter isLeast ∧ b ∈ l.filter isLeast :=
      ⟨hab.mem List.mem_cons_self, hab.mem (by simp)⟩
    rw [List.mem_filter] at ha hb
    rw [hleast b hb.1 hb.2 a ha.1, ha.2]
  have hfilter : (l.mergeSort le).filter isLeast = l.filter isLeast := by
    rw [filter_mergeSort trans total, List.mergeSort_of_pairwise hties]
  rw [← List.head?_filter, ← hfilter]
  have hsorted := List.pairwise_mergeSort trans total l
  cases hsort : l.mergeSort le with
  | nil => rfl
  | cons first rest =>
      have hfirst : first ∈ l := List.mem_mergeSort.mp (hsort ▸ List.mem_cons_self)
      rw [hsort, List.pairwise_cons] at hsorted
      cases hleastFirst : isLeast first with
      | true => simp [hleastFirst]
      | false =>
          have hrest : rest.filter isLeast = [] := List.filter_eq_nil_iff.mpr fun a ha hleastA => by
            have hmem : a ∈ l := List.mem_mergeSort.mp (hsort ▸ List.mem_cons_of_mem _ ha)
            have hbefore := hleast a hmem hleastA first hfirst
            rw [hsorted.1 a ha, hleastFirst] at hbefore
            contradiction
          simp [hleastFirst, hrest]

/-- Sorting is stable: what holds of any two elements in order holds of those that are equal in
order after sorting. -/
lemma pairwise_mergeSort_of_pairwise
    (trans : ∀ a b c, le a b = true → le b c = true → le a c = true)
    (total : ∀ a b, (le a b || le b a) = true) {R : α → α → Prop} {l : List α}
    (h : l.Pairwise R) :
    (l.mergeSort le).Pairwise fun a b => le a b = true ∧ (le b a = true → R a b) := by
  induction l with
  | nil => simp
  | cons a l ih =>
      obtain ⟨ha, hl⟩ := List.pairwise_cons.mp h
      have hmem (b : α) (hb : b ∈ l.mergeSort le) : b ∈ l := List.mem_mergeSort.mp hb
      rw [mergeSort_cons_eq trans total, List.pairwise_append, List.pairwise_cons]
      refine ⟨(ih hl).filter _, ⟨fun c hc => ?_, (ih hl).filter _⟩, fun b hb c hc => ?_⟩
      · obtain ⟨hc, hac⟩ := List.mem_filter.mp hc
        exact ⟨hac, fun _ => ha c (hmem c hc)⟩
      · obtain ⟨-, hab⟩ := List.mem_filter.mp hb
        have hnot : ¬le a b = true := by simpa using hab
        have hba : le b a = true := by simpa [hnot] using total a b
        rcases List.mem_cons.mp hc with rfl | hc
        · exact ⟨hba, fun h => absurd h hnot⟩
        · obtain ⟨-, hac⟩ := List.mem_filter.mp hc
          exact ⟨trans b a c hba hac, fun hcb => absurd (trans a c b hac hcb) hnot⟩

end Sorting

/-! ### Readings of one kind -/

namespace Phrase

/-- Insertion among readings of one kind takes no notice of others, if what means the same is of the
same kind. -/
lemma filter_insertDistinct {keep : Token → Bool}
    (hkeep : ∀ a b : Token, a.isEquivalent b = true → keep a = keep b) (t : Token)
    (tokens : List Token) :
    (insertDistinct t tokens).filter keep =
      if keep t then insertDistinct t (tokens.filter keep) else tokens.filter keep := by
  induction tokens with
  | nil => cases h : keep t <;> simp [insertDistinct, h]
  | cons u rest ih =>
      rw [insertDistinct]
      split
      · next hsame =>
          have hu := hkeep u t hsame
          cases ht : keep t with
          | true => split <;> simp_all [insertDistinct]
          | false => split <;> simp_all
      · next hother =>
          cases hu : keep u with
          | true =>
              rw [List.filter_cons_of_pos hu, List.filter_cons_of_pos hu, ih]
              split
              · rw [insertDistinct, if_neg hother]
              · rfl
          | false => simp [hu, ih]

/-- **Readings of one kind are ranked as if there were no others**, if what means the same is of the
same kind. -/
theorem retain_extend {keep : Token → Bool}
    (hkeep : ∀ a b : Token, a.isEquivalent b = true → keep a = keep b) (p : Phrase)
    (new : List Token) :
    (p.extend new).retain keep = (p.retain keep).extend (new.filter keep) := by
  have hfold (new tokens : List Token) :
      (new.foldl (fun all t => insertDistinct t all) tokens).filter keep
        = (new.filter keep).foldl (fun all t => insertDistinct t all) (tokens.filter keep) := by
    induction new generalizing tokens with
    | nil => rfl
    | cons t new ih =>
        rw [List.foldl_cons, ih, filter_insertDistinct hkeep]
        cases ht : keep t <;> simp [ht]
  simp only [extend, retain, filter_mergeSort Token.ranksBefore_trans Token.ranksBefore_total,
    hfold]

/-- A phrase that is ranked stays as it is without more readings. -/
lemma extend_nil_extend (p : Phrase) (new : List Token) :
    (p.extend new).extend [] = p.extend new := by
  simp only [extend, List.foldl_nil]
  rw [List.mergeSort_of_pairwise
    (List.pairwise_mergeSort Token.ranksBefore_trans Token.ranksBefore_total _)]

/-- A reading that means something new comes last before the ranking. -/
lemma insertDistinct_of_forall {t : Token} {tokens : List Token}
    (h : ∀ u ∈ tokens, u.isEquivalent t = false) : insertDistinct t tokens = tokens ++ [t] := by
  induction tokens with
  | nil => rfl
  | cons u rest ih =>
      obtain ⟨hu, hrest⟩ := List.forall_mem_cons.mp h
      rw [insertDistinct, hu, ih hrest]
      rfl

/-- Readings that mean different things all come last before the ranking. -/
lemma foldl_insertDistinct_of_pairwise (new tokens : List Token)
    (h : (tokens ++ new).Pairwise fun a b => a.isEquivalent b = false) :
    new.foldl (fun all t => insertDistinct t all) tokens = tokens ++ new := by
  induction new generalizing tokens with
  | nil => simp
  | cons t new ih =>
      have ht : ∀ u ∈ tokens, u.isEquivalent t = false := fun u hu =>
        (List.pairwise_append.mp h).2.2 u hu t List.mem_cons_self
      rw [List.foldl_cons, insertDistinct_of_forall ht, ih _ (by simpa using h)]
      simp

/-- Readings that mean different things are all there. -/
lemma tokens_extend_of_distinct {text : String} {new : List Token}
    (h : new.Pairwise fun a b => a.isEquivalent b = false) :
    (extend { text } new).tokens = new.mergeSort Token.ranksBefore := by
  simp only [extend, foldl_insertDistinct_of_pairwise new [] h, List.nil_append]

end Phrase

end ChatCommand

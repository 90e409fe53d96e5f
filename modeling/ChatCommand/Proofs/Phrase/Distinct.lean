/-
Phrases whatever is done to them.

Readings are put into a phrase and taken out of it in any order. All the while they stand by rank
and no two mean the same.

* `Phrase.Distinct`: no two of some readings mean the same;
* `Phrase.IsRanked`: the readings of a phrase stand by rank, are distinct, and are similar in
  percent;
* `Phrase.IsBuilt`: the phrases that come from putting readings in and taking readings out;
* `Phrase.Distinct.insertDistinct`: insertion keeps readings distinct;
* `Phrase.IsBuilt.isRanked`: **phrases are ranked whatever is done to them**.
-/
import ChatCommand.Proofs.Phrase.Ranking
import ChatCommand.Proofs.Similarity.Percent
import ChatCommand.Proofs.Token.Equivalence

namespace ChatCommand

namespace Phrase

variable {p : Phrase} {t : Token} {tokens : List Token}

/-- No two of some readings mean the same. -/
def Distinct (tokens : List Token) : Prop :=
  tokens.Pairwise fun a b => a.isEquivalent b = false

/-- The readings stand by rank, are distinct, and are similar in percent. -/
structure IsRanked (p : Phrase) : Prop where
  sorted : p.tokens.Pairwise fun a b => a.rank b ≠ .gt
  distinct : Distinct p.tokens
  percent : ∀ t ∈ p.tokens,
    t.similarity.number.isNaN = false ∧ 0 ≤ t.similarity.number ∧ t.similarity.number ≤ 100

/-- The phrases that come from a span without readings or with one by putting readings in and taking
readings out. What is taken out may depend on the other readings. -/
inductive IsBuilt : Phrase → Prop
  | new (text : String) : IsBuilt { text }
  | ofToken (text : String) (t : Token) : IsBuilt (.ofToken text t)
  | push {p : Phrase} (hp : IsBuilt p) (t : Token) : IsBuilt (p.push t)
  | extend {p : Phrase} (hp : IsBuilt p) (new : List Token) : IsBuilt (p.extend new)
  | retain {p : Phrase} (hp : IsBuilt p) (keep : Token → Bool) : IsBuilt (p.retain keep)
  | select {p : Phrase} (hp : IsBuilt p) {kept : List Token} (hkept : kept.Sublist p.tokens) :
      IsBuilt { p with tokens := kept }

/-! ### Distinct readings -/

namespace Distinct

lemma perm {tokens' : List Token} (h : Distinct tokens) (hperm : tokens.Perm tokens') :
    Distinct tokens' :=
  hperm.pairwise h fun {a b} hab => (Token.isEquivalent_comm b a).trans hab

/-- **Insertion keeps readings distinct**: what comes in the place of a reading means the same as
it. -/
lemma insertDistinct (h : Distinct tokens) (t : Token) : Distinct (insertDistinct t tokens) := by
  induction tokens with
  | nil => exact List.pairwise_singleton _ _
  | cons u rest ih =>
      obtain ⟨hu, hrest⟩ := List.pairwise_cons.mp h
      rw [Phrase.insertDistinct]
      split
      · next hsame =>
          split
          · refine List.pairwise_cons.mpr ⟨fun v hv => ?_, hrest⟩
            rw [← Token.isEquivalent_congr_left hsame]
            exact hu v hv
          · exact h
      · next hother =>
          refine List.pairwise_cons.mpr ⟨fun v hv => ?_, ih hrest⟩
          rcases mem_of_mem_insertDistinct hv with rfl | hv
          · exact Bool.eq_false_iff.mpr hother
          · exact hu v hv

lemma foldl_insertDistinct (h : Distinct tokens) (new : List Token) :
    Distinct (new.foldl (fun all t => Phrase.insertDistinct t all) tokens) := by
  induction new generalizing tokens with
  | nil => exact h
  | cons t new ih => exact ih (h.insertDistinct t)

end Distinct

/-! ### Ranked phrases -/

lemma isRanked_of_sorted_of_distinct (hsorted : p.tokens.Pairwise fun a b => a.rank b ≠ .gt)
    (hdistinct : Distinct p.tokens) : p.IsRanked :=
  ⟨hsorted, hdistinct, fun t _ => t.similarity.number_mem⟩

/-- A phrase is ranked anew when it gets more readings. -/
lemma Distinct.isRanked_extend (h : Distinct p.tokens) (new : List Token) :
    (p.extend new).IsRanked := by
  refine isRanked_of_sorted_of_distinct ?_
    ((h.foldl_insertDistinct new).perm (List.mergeSort_perm _ _).symm)
  refine (List.pairwise_mergeSort Token.ranksBefore_trans Token.ranksBefore_total _).imp ?_
  exact fun h => bne_iff_ne.mp h

lemma IsRanked.select (hp : p.IsRanked) {kept : List Token} (hkept : kept.Sublist p.tokens) :
    IsRanked { p with tokens := kept } :=
  isRanked_of_sorted_of_distinct (hp.sorted.sublist hkept) (hp.distinct.sublist hkept)

/-- **Phrases are ranked whatever is done to them.** -/
theorem IsBuilt.isRanked (hp : p.IsBuilt) : p.IsRanked := by
  induction hp with
  | new text => exact isRanked_of_sorted_of_distinct .nil .nil
  | ofToken text t =>
      exact isRanked_of_sorted_of_distinct (List.pairwise_singleton _ _)
        (List.pairwise_singleton _ _)
  | push _ t ih => exact ih.distinct.isRanked_extend [t]
  | extend _ new ih => exact ih.distinct.isRanked_extend new
  | retain _ keep ih => exact ih.select List.filter_sublist
  | select _ hkept ih => exact ih.select hkept

end Phrase

end ChatCommand

/-
How similar texts are, in exact arithmetic.

* `agreement_comm`, `similarity_comm`: similarity is symmetric, in any arithmetic;
* `agreement_eq`, `agreement_mem`, `agreement_eq_hundred_iff`: it is the share of the longer text
  that the edit distance leaves, a percentage, and a hundred for equal texts alone;
* `sharedPrefixLength_le`, `sharedWordsLength_le`: what two texts share is no longer than either;
* `singularSimilarity_eq`, `partialSimilarity_mem`: the refinements of a similarity;
* `similarity_bounds`: **refinements never lower a similarity, and the bonus for a part is half of
  what lacks to a hundred at most**.
-/
import ChatCommand.Proofs.Similarity.EditDistance
import ChatCommand.Proofs.Similarity.Exact
import ChatCommand.Similarity.Text

namespace ChatCommand

open Text

/-! ### Symmetry -/

section Symmetry

variable {σ : Type} [Scale σ]

lemma agreement_comm (a b : List Char) : (agreement a b : σ) = agreement b a := by
  simp only [agreement, editDistance_comm a b, max_comm a.length, eq_comm (a := a)]

/-- Similarity is symmetric. -/
theorem similarity_comm (a b : String) : (similarity a b : σ) = similarity b a :=
  agreement_comm _ _

end Symmetry

/-! ### Agreement -/

section Agreement

variable {a b : List Char}

lemma agreement_self (a : List Char) : (agreement a a : ℚ) = 100 := if_pos rfl

/-- Nothing has to be cut off, and of two empty texts nothing is missing. -/
lemma agreement_eq (a b : List Char) :
    (agreement a b : ℚ) = percentage (editDistance a b) (max a.length b.length) := by
  by_cases h : a = b
  · rw [h, agreement_self, editDistance_eq_zero_iff.mpr rfl, percentage_eq]
    norm_num
  · obtain ⟨h0, h100⟩ := percentage_mem (editDistance_le_max_length a b)
    exact (if_neg h).trans (clampPercent_of_mem h0 h100)

lemma agreement_mem (a b : List Char) : 0 ≤ (agreement a b : ℚ) ∧ (agreement a b : ℚ) ≤ 100 := by
  rw [agreement_eq]
  exact percentage_mem (editDistance_le_max_length a b)

/-- Different texts agree less than equal ones. -/
lemma agreement_eq_hundred_iff : (agreement a b : ℚ) = 100 ↔ a = b := by
  refine ⟨fun h => ?_, fun h => h ▸ agreement_self a⟩
  by_contra hne
  have hdistance : 0 < editDistance a b :=
    Nat.pos_of_ne_zero fun h0 => hne (editDistance_eq_zero_iff.mp h0)
  have hlt := percentage_lt_hundred hdistance (editDistance_le_max_length a b)
  rw [← agreement_eq, h] at hlt
  exact lt_irrefl _ hlt

end Agreement

/-! ### Shared parts -/

lemma sharedPrefixLength_le (a b : List Char) : sharedPrefixLength a b ≤ max a.length b.length := by
  fun_induction sharedPrefixLength a b with
  | case1 x xs y ys _ ih =>
      rw [List.length_cons, List.length_cons]
      omega
  | case2 => exact Nat.zero_le _
  | case3 => exact Nat.zero_le _

lemma sharedWordsLength_le (a b : List Char) : sharedWordsLength a b ≤ max a.length b.length := by
  unfold sharedWordsLength
  by_cases h : a.length ≤ b.length
  · simp only [if_pos h]
    split_ifs <;> simp
  · simp only [if_neg h]
    split_ifs <;> simp

/-! ### Refinements -/

variable (a b : String)

lemma similarity_mem : 0 ≤ (similarity a b : ℚ) ∧ (similarity a b : ℚ) ≤ 100 :=
  agreement_mem _ _

lemma similarity_eq_hundred_iff : (similarity a b : ℚ) = 100 ↔ lowercase a = lowercase b := by
  rw [similarity, agreement_eq_hundred_iff, lowercase, lowercase, String.ofList_inj]

/-- The better similarity is taken, also where the texts agree as they are written. -/
lemma singularSimilarity_eq :
    (singularSimilarity a b : ℚ)
      = max (similarity a b) (similarity (singular a) (singular b)) := by
  have hsingular := (similarity_mem (singular a) (singular b)).2
  rw [singularSimilarity]
  split
  · next hfull => exact (max_eq_left (hsingular.trans (of_decide_eq_true hfull))).symm
  · rfl

/-- The bonus never lowers a similarity and is half of what lacks to a hundred at most. -/
lemma partialSimilarity_mem :
    (similarity a b : ℚ) ≤ partialSimilarity a b
      ∧ (partialSimilarity a b : ℚ) ≤ similarity a b + (100 - similarity a b) / 2 := by
  obtain ⟨h0, h100⟩ := similarity_mem a b
  have hsame : (similarity a b : ℚ) ≤ similarity a b
      ∧ (similarity a b : ℚ) ≤ similarity a b + (100 - similarity a b) / 2 :=
    ⟨le_refl _, by linarith⟩
  rw [partialSimilarity]
  split
  · exact hsame
  · dsimp only
    split
    · exact hsame
    · have hcovered := max_le
        (sharedPrefixLength_le (lowercaseChars a.toList) (lowercaseChars b.toList))
        (sharedWordsLength_le (lowercaseChars a.toList) (lowercaseChars b.toList))
      obtain ⟨hle, hbound⟩ := withBonus_mem h100 hcovered
      have hraised := clampPercent_of_mem (h0.trans hle) (by linarith)
      exact ⟨hle.trans_eq hraised.symm, hraised.trans_le hbound⟩

/-- **Scores obey their order.** Similarity, the share of the longer text that the edit distance
leaves, is symmetric and a percentage, a hundred for texts that are equal in lower case alone.
Without plural endings it is no lower and a percentage, too. With the bonus for a part it is no
lower, but the bonus is half of what lacks to a hundred at most, so that a hundred remains for equal
texts. -/
theorem similarity_bounds :
    (similarity a b : ℚ)
        = (1 - editDistance (lowercaseChars a.toList) (lowercaseChars b.toList)
            / (max (lowercaseChars a.toList).length (lowercaseChars b.toList).length : Nat)) * 100
      ∧ (similarity a b : ℚ) = similarity b a
      ∧ 0 ≤ (similarity a b : ℚ) ∧ (similarity a b : ℚ) ≤ 100
      ∧ ((similarity a b : ℚ) = 100 ↔ lowercase a = lowercase b)
      ∧ (similarity a b : ℚ) ≤ singularSimilarity a b
      ∧ (singularSimilarity a b : ℚ) ≤ 100
      ∧ (similarity a b : ℚ) ≤ partialSimilarity a b
      ∧ (partialSimilarity a b : ℚ) ≤ similarity a b + (100 - similarity a b) / 2
      ∧ ((partialSimilarity a b : ℚ) = 100 ↔ lowercase a = lowercase b) := by
  obtain ⟨h0, h100⟩ := similarity_mem a b
  obtain ⟨hle, hbound⟩ := partialSimilarity_mem a b
  have hsingular := singularSimilarity_eq a b
  have hpartial : (partialSimilarity a b : ℚ) = 100 ↔ (similarity a b : ℚ) = 100 :=
    ⟨fun h => by linarith, fun h => by linarith⟩
  refine ⟨(agreement_eq _ _).trans (percentage_eq _ _), similarity_comm a b, h0, h100,
    similarity_eq_hundred_iff a b, hsingular ▸ le_max_left _ _, ?_, hle, hbound,
    hpartial.trans (similarity_eq_hundred_iff a b)⟩
  rw [hsingular]
  exact max_le h100 (similarity_mem _ _).2

end ChatCommand

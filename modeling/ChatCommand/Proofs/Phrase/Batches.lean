/-
Readings in one batch or in several.

A phrase is ranked whenever it gets more readings, so a later batch finds its readings in another
order. Since these are distinct, the order makes no difference to what comes in.

* `Phrase.SameUpToTies`: the same readings up to the order of those of equal rank;
* `Phrase.KeepsBest`, `Phrase.Represents`: of the readings that mean the same, the first of the most
  similar;
* `Phrase.perm_insertDistinct`, `Phrase.perm_foldl_insertDistinct`: insertion among distinct
  readings takes no notice of their order;
* `Phrase.Represents.extend`: a phrase goes on representing what it is given;
* `Phrase.extend_batches`: **batches make no difference up to ties**.
-/
import Mathlib.Data.List.Forall2
import ChatCommand.Proofs.Phrase.Distinct

namespace ChatCommand

namespace Phrase

variable {p q : Phrase} {t : Token} {tokens tokens' seen kept new : List Token}

/-- The same span and the same readings, up to the order of those of equal rank. -/
structure SameUpToTies (p q : Phrase) : Prop where
  text : p.text = q.text
  perm : p.tokens.Perm q.tokens
  ranks : List.Forall₂ (fun a b => a.rank b = .eq) p.tokens q.tokens

/-- Of some readings that mean the same, in the order in which they came, the first of the most
similar is kept. -/
inductive KeepsBest : List Token → List Token → Prop
  | none : KeepsBest [] []
  | best (before : List Token) (t : Token) (after : List Token)
      (hbefore : ∀ u ∈ before, u.similarity < t.similarity)
      (hafter : ∀ u ∈ after, u.similarity ≤ t.similarity) : KeepsBest (before ++ t :: after) [t]

/-- Of the readings that came, the phrase keeps the first of the most similar of those that mean the
same, and all that do not even mean the same as themselves. -/
structure Represents (p : Phrase) (seen : List Token) : Prop where
  best (t : Token) :
    KeepsBest (seen.filter (·.isEquivalent t)) (p.tokens.filter (·.isEquivalent t))
  others : (p.tokens.filter fun u => !u.isEquivalent u).Perm
    (seen.filter fun u => !u.isEquivalent u)

/-! ### The order of insertion -/

/-- Insertion among distinct readings takes no notice of their order: at most one of them means the
same. -/
lemma perm_insertDistinct (hperm : tokens.Perm tokens') (h : Distinct tokens) (t : Token) :
    (insertDistinct t tokens).Perm (insertDistinct t tokens') := by
  induction hperm with
  | nil => exact .refl _
  | cons u hperm ih =>
      rw [insertDistinct, insertDistinct]
      split
      · split <;> exact hperm.cons _
      · exact (ih (List.pairwise_cons.mp h).2).cons u
  | swap u v rest =>
      have hvu : v.isEquivalent u = false := (List.pairwise_cons.mp h).1 u List.mem_cons_self
      simp only [insertDistinct]
      by_cases hu : u.isEquivalent t = true
      · have hv : ¬v.isEquivalent t = true := fun hv => by
          rw [Token.isEquivalent_trans hv (Token.isEquivalent_symm hu)] at hvu
          contradiction
        simp only [if_pos hu, if_neg hv]
        split <;> exact .swap _ _ _
      · simp only [if_neg hu]
        split
        · split <;> exact .swap _ _ _
        · exact .swap _ _ _
  | trans h₁ _ ih₁ ih₂ => exact (ih₁ h).trans (ih₂ (h.perm h₁))

lemma perm_foldl_insertDistinct (hperm : tokens.Perm tokens') (h : Distinct tokens)
    (new : List Token) :
    (new.foldl (fun all t => insertDistinct t all) tokens).Perm
      (new.foldl (fun all t => insertDistinct t all) tokens') := by
  induction new generalizing tokens tokens' with
  | nil => exact hperm
  | cons t new ih => exact ih (perm_insertDistinct hperm h t) (h.insertDistinct t)

/-- Readings that stand by rank stand in one way only, up to those of equal rank. -/
lemma IsRanked.sameUpToTies (hp : p.IsRanked) (hq : q.IsRanked) (htext : p.text = q.text)
    (hperm : p.tokens.Perm q.tokens) : p.SameUpToTies q := by
  let key (t : Token) : Nat × Nat := (t.similarity.position, t.text.utf8ByteSize)
  let before (x y : Nat × Nat) : Prop := y.1 < x.1 ∨ y.1 = x.1 ∧ y.2 ≤ x.2
  have hbefore (a b : Token) (h : a.rank b ≠ .gt) : before (key a) (key b) :=
    Token.ranksBefore_iff.mp (bne_iff_ne.mpr h)
  have hantisymm (x y : Nat × Nat) (hxy : before x y) (hyx : before y x) : x = y := by
    simp only [before] at hxy hyx
    exact Prod.ext (by omega) (by omega)
  have hkeys : p.tokens.map key = q.tokens.map key :=
    List.Perm.eq_of_pairwise (fun x y _ _ => hantisymm x y)
      (List.pairwise_map.mpr (hp.sorted.imp (hbefore _ _)))
      (List.pairwise_map.mpr (hq.sorted.imp (hbefore _ _))) (hperm.map key)
  refine ⟨htext, hperm, ?_⟩
  rw [← List.forall₂_eq_eq_eq, List.forall₂_map_left_iff, List.forall₂_map_right_iff] at hkeys
  refine hkeys.imp fun a b hab => ?_
  obtain ⟨hposition, hsize⟩ := Prod.mk.inj hab
  rw [Token.rank, hposition, hsize, Ordering.then_eq_eq, Nat.compare_eq_eq, Nat.compare_eq_eq]
  exact ⟨rfl, rfl⟩

/-! ### What is represented -/

namespace KeepsBest

/-- One more reading is kept if it is more similar than the one that has been kept, and passed over
if it is not. -/
lemma insertDistinct (h : KeepsBest seen kept) (hkept : ∀ u ∈ kept, u.isEquivalent t = true) :
    KeepsBest (seen ++ [t]) (insertDistinct t kept) := by
  cases h with
  | none => exact .best [] t [] (by simp) (by simp)
  | best before u after hbefore hafter =>
      rw [Phrase.insertDistinct, if_pos (hkept u List.mem_cons_self)]
      split
      · next hlt =>
          refine .best (before ++ u :: after) t [] (fun w hw => ?_) (by simp)
          rcases List.mem_append.mp hw with hw | hw
          · exact Nat.lt_trans (hbefore w hw) hlt
          · rcases List.mem_cons.mp hw with rfl | hw
            · exact hlt
            · exact Nat.lt_of_le_of_lt (hafter w hw) hlt
      · next hle =>
          rw [List.append_assoc, List.cons_append]
          refine .best before u (after ++ [t]) hbefore (fun w hw => ?_)
          rcases List.mem_append.mp hw with hw | hw
          · exact hafter w hw
          · rw [List.mem_singleton.mp hw]
            exact Nat.not_lt.mp hle

lemma foldl_insertDistinct {kind : Token} (h : KeepsBest seen kept)
    (hkept : ∀ u ∈ kept, u.isEquivalent kind = true)
    (hnew : ∀ u ∈ new, u.isEquivalent kind = true) :
    KeepsBest (seen ++ new) (new.foldl (fun all t => Phrase.insertDistinct t all) kept) := by
  induction new generalizing seen kept with
  | nil => simpa using h
  | cons t new ih =>
      obtain ⟨ht, hnew⟩ := List.forall_mem_cons.mp hnew
      have hstep := h.insertDistinct (t := t) fun u hu =>
        Token.isEquivalent_trans (hkept u hu) (Token.isEquivalent_symm ht)
      rw [List.append_cons]
      refine ih hstep (fun u hu => ?_) hnew
      rcases mem_of_mem_insertDistinct hu with rfl | hu
      · exact ht
      · exact hkept u hu

/-- There is nothing to rank where one reading is kept at most. -/
lemma mergeSort_eq (h : KeepsBest seen kept) (le : Token → Token → Bool) :
    kept.mergeSort le = kept := by
  cases h <;> simp

/-- What is kept is as similar whatever the order in which the readings came. -/
lemma magnitude_eq {seen' kept' : List Token} (h : KeepsBest seen kept)
    (h' : KeepsBest seen' kept') (hperm : seen.Perm seen') :
    kept.map (·.similarity.magnitude) = kept'.map (·.similarity.magnitude) := by
  have hle {before after : List Token} {t u : Token}
      (hbefore : ∀ w ∈ before, w.similarity < t.similarity)
      (hafter : ∀ w ∈ after, w.similarity ≤ t.similarity) (hu : u ∈ before ++ t :: after) :
      u.similarity ≤ t.similarity := by
    rcases List.mem_append.mp hu with hu | hu
    · exact Nat.le_of_lt (hbefore u hu)
    · rcases List.mem_cons.mp hu with rfl | hu
      · exact Nat.le_refl _
      · exact hafter u hu
  cases h with
  | none =>
      cases h' with
      | none => rfl
      | best => simp at hperm
  | best before t after hbefore hafter =>
      cases h' with
      | none => simp at hperm
      | best before' t' after' hbefore' hafter' =>
          have ht : t ∈ before' ++ t' :: after' := hperm.subset (by simp)
          have ht' : t' ∈ before ++ t :: after := hperm.symm.subset (by simp)
          rw [List.map_singleton, List.map_singleton,
            Nat.le_antisymm (hle hbefore' hafter' ht) (hle hbefore hafter ht')]

end KeepsBest

/-- Readings that are distinct represent themselves. -/
lemma Distinct.represents (h : Distinct p.tokens) : p.Represents p.tokens := by
  refine ⟨fun t => ?_, .refl _⟩
  have hkind : ∀ u ∈ p.tokens.filter (·.isEquivalent t), u.isEquivalent t = true :=
    fun u hu => (List.mem_filter.mp hu).2
  have hdistinct := h.sublist (List.filter_sublist (p := (·.isEquivalent t)))
  cases hkept : p.tokens.filter (·.isEquivalent t) with
  | nil => exact .none
  | cons u rest =>
      cases rest with
      | nil => exact .best [] u [] (by simp) (by simp)
      | cons v rest =>
          rw [hkept] at hkind hdistinct
          have hu := hkind u List.mem_cons_self
          have hv := hkind v (by simp)
          have huv := (List.pairwise_cons.mp hdistinct).1 v List.mem_cons_self
          rw [Token.isEquivalent_trans hu (Token.isEquivalent_symm hv)] at huv
          contradiction

/-- Readings of one kind are inserted and ranked among themselves. -/
lemma filter_tokens_extend {keep : Token → Bool}
    (hkeep : ∀ a b : Token, a.isEquivalent b = true → keep a = keep b) (p : Phrase)
    (new : List Token) :
    (p.extend new).tokens.filter keep
      = ((new.filter keep).foldl (fun all t => insertDistinct t all)
          (p.tokens.filter keep)).mergeSort Token.ranksBefore :=
  congrArg Phrase.tokens (retain_extend hkeep p new)

/-- Readings that do not even mean the same as themselves are all there. -/
lemma perm_filter_tokens_extend (p : Phrase) (new : List Token) :
    ((p.extend new).tokens.filter fun u => !u.isEquivalent u).Perm
      ((p.tokens ++ new).filter fun u => !u.isEquivalent u) := by
  have hkeep (a b : Token) (hab : a.isEquivalent b = true) :
      (!a.isEquivalent a) = !b.isEquivalent b := by
    rw [Token.isEquivalent_self_of_isEquivalent hab,
      Token.isEquivalent_self_of_isEquivalent (Token.isEquivalent_symm hab)]
  have hpairwise : ((p.tokens ++ new).filter fun u => !u.isEquivalent u).Pairwise
      fun a b => a.isEquivalent b = false := by
    refine List.pairwise_of_forall_mem_list fun a ha b _ => ?_
    have hself : a.isEquivalent a = false := by simpa using (List.mem_filter.mp ha).2
    exact Bool.eq_false_iff.mpr fun hab => by
      rw [Token.isEquivalent_self_of_isEquivalent hab] at hself
      contradiction
  rw [List.filter_append] at hpairwise ⊢
  rw [filter_tokens_extend hkeep, foldl_insertDistinct_of_pairwise _ _ hpairwise]
  exact List.mergeSort_perm _ _

/-- **A phrase goes on representing what it is given.** -/
lemma Represents.extend (h : p.Represents seen) (new : List Token) :
    (p.extend new).Represents (seen ++ new) := by
  refine ⟨fun t => ?_, ?_⟩
  · have hbest := (h.best t).foldl_insertDistinct
      (fun u hu => (List.mem_filter.mp hu).2 : ∀ u ∈ p.tokens.filter (·.isEquivalent t), _)
      (fun u hu => (List.mem_filter.mp hu).2 : ∀ u ∈ new.filter (·.isEquivalent t), _)
    rw [filter_tokens_extend (fun a b hab => Token.isEquivalent_congr_left hab t),
      hbest.mergeSort_eq, List.filter_append]
    exact hbest
  · refine (perm_filter_tokens_extend p new).trans ?_
    rw [List.filter_append, List.filter_append]
    exact h.others.append_right _

/-- **Batches make no difference up to ties**: a ranked phrase that is given some readings and then
others has the same as one that is given all at once. Both represent what was there and what came.
The readings of one batch may come in any order for all that is left of each kind to be as
similar. -/
theorem extend_batches (hp : p.IsRanked) (xs ys : List Token) :
    ((p.extend xs).extend ys).SameUpToTies (p.extend (xs ++ ys))
      ∧ (p.extend (xs ++ ys)).Represents (p.tokens ++ (xs ++ ys))
      ∧ ((p.extend xs).extend ys).Represents (p.tokens ++ (xs ++ ys))
      ∧ ∀ xs', xs'.Perm xs → ∀ t : Token,
          ((p.extend xs').tokens.filter (·.isEquivalent t)).map (·.similarity.magnitude)
            = ((p.extend xs).tokens.filter (·.isEquivalent t)).map (·.similarity.magnitude) := by
  have hdistinct := hp.distinct
  have hrepresents := hdistinct.represents
  refine ⟨?_, hrepresents.extend _, ?_, fun xs' hxs t => ?_⟩
  · refine ((hdistinct.isRanked_extend xs).distinct.isRanked_extend ys).sameUpToTies
      (hdistinct.isRanked_extend _) rfl ?_
    have hfold := perm_foldl_insertDistinct (List.mergeSort_perm _ Token.ranksBefore)
      (hdistinct.isRanked_extend xs).distinct ys
    rw [← List.foldl_append] at hfold
    exact (List.mergeSort_perm _ _).trans (hfold.trans (List.mergeSort_perm _ _).symm)
  · rw [← List.append_assoc]
    exact (hrepresents.extend xs).extend ys
  · exact ((hrepresents.extend xs').best t).magnitude_eq ((hrepresents.extend xs).best t)
      ((hxs.append_left _).filter _)

/-- Of three readings as a number in two batches, the first of the two more similar ones is left. -/
theorem exists_extend_batches :
    ∃ (p : Phrase) (t u v w : Token), p.tokens = [t] ∧ t.similarity < u.similarity
      ∧ [u, v, w].map Token.variant = [.number, .method, .number]
      ∧ ((p.extend [u, v]).extend [w]).SameUpToTies (p.extend [u, v, w])
      ∧ KeepsBest [t, u, w] (((p.extend [u, v]).extend [w]).tokens.filter (·.isEquivalent t)) := by
  let t : Token := { text := "two", variant := .number, similarity := .zero }
  let u : Token := { text := "two", variant := .number, similarity := .hundred }
  let v : Token := { text := "two", variant := .method, similarity := .zero }
  obtain ⟨hties, -, hrepresents, -⟩ :=
    extend_batches (IsBuilt.ofToken "two" t).isRanked [u, v] [u]
  exact ⟨.ofToken "two" t, t, u, v, u, rfl, by decide, rfl, hties, hrepresents.best t⟩

end Phrase

end ChatCommand

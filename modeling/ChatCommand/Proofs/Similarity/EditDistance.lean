/-
The edit distance is the least number of edits.

Texts are compared from their ends: the rows of the computation hold distances between beginnings,
which are texts in reverse.

* `Edits`: so many insertions, deletions and replacements turn one text into another;
* `Edits.symm`, `Edits.reverse`, `Edits.eq_of_zero`, `edits_max_length`: edits can be undone and
  made from the other end, none change nothing, and there are never more than characters;
* `IsDistance`: the least number of edits;
* `IsDistance.step`: the least number for one more character of both texts;
* `forall₂_distanceRow`: **a row of distances is followed by a row of distances**;
* `isDistance_editDistance`: **the edit distance is the least number of edits**;
* `editDistance_comm`, `editDistance_le_max_length`, `editDistance_eq_zero_iff`: it is symmetric, at
  most the length of the longer text, and zero for equal texts alone.
-/
import Mathlib.Data.List.Forall2
import Mathlib.Order.Bounds.Basic
import Mathlib.Order.MinMax
import ChatCommand.Similarity.EditDistance

namespace ChatCommand

/-! ### Edits -/

/-- With `n` insertions, deletions and replacements of a character `a` becomes `b`. -/
inductive Edits : Nat → List Char → List Char → Prop
  | nil : Edits 0 [] []
  | keep {n a b} (x : Char) (h : Edits n a b) : Edits n (x :: a) (x :: b)
  | delete {n a b} (x : Char) (h : Edits n a b) : Edits (n + 1) (x :: a) b
  | insert {n a b} (y : Char) (h : Edits n a b) : Edits (n + 1) a (y :: b)
  | replace {n a b} (x y : Char) (h : Edits n a b) : Edits (n + 1) (x :: a) (y :: b)

namespace Edits

variable {m n : Nat} {a b c d : List Char}

/-- Edits can be undone. -/
lemma symm (h : Edits n a b) : Edits n b a := by
  induction h with
  | nil => exact .nil
  | keep x _ ih => exact .keep x ih
  | delete x _ ih => exact .insert x ih
  | insert y _ ih => exact .delete y ih
  | replace x y _ ih => exact .replace y x ih

lemma append (h : Edits m a b) (h' : Edits n c d) : Edits (m + n) (a ++ c) (b ++ d) := by
  induction h with
  | nil => rwa [Nat.zero_add]
  | keep x _ ih => exact .keep x ih
  | delete x _ ih => exact Nat.add_right_comm _ _ _ ▸ .delete x ih
  | insert y _ ih => exact Nat.add_right_comm _ _ _ ▸ .insert y ih
  | replace x y _ ih => exact Nat.add_right_comm _ _ _ ▸ .replace x y ih

/-- Edits can be made from the other end. -/
lemma reverse (h : Edits n a b) : Edits n a.reverse b.reverse := by
  induction h with
  | nil => exact .nil
  | keep x _ ih => simpa using ih.append (.keep x .nil)
  | delete x _ ih => simpa using ih.append (.delete x .nil)
  | insert y _ ih => simpa using ih.append (.insert y .nil)
  | replace x y _ ih => simpa using ih.append (.replace x y .nil)

/-- Without edits a text stays as it is. -/
lemma eq_of_zero (h : Edits 0 a b) : a = b := by
  induction a generalizing b with
  | nil =>
      cases h
      rfl
  | cons x a ih =>
      cases h with
      | keep _ h => rw [ih h]

lemma refl (a : List Char) : Edits 0 a a := by
  induction a with
  | nil => exact .nil
  | cons x a ih => exact .keep x ih

lemma length_left (h : Edits n a []) : n = a.length := by
  generalize hb : ([] : List Char) = b at h
  induction h with
  | nil => rfl
  | keep | insert | replace => contradiction
  | delete x _ ih => rw [List.length_cons, ih hb]

end Edits

/-- As many edits as the longer text has characters are enough. -/
lemma edits_max_length (a b : List Char) : ∃ n ≤ max a.length b.length, Edits n a b := by
  induction a generalizing b with
  | nil =>
      induction b with
      | nil => exact ⟨0, Nat.le_refl _, .nil⟩
      | cons y b ih =>
          obtain ⟨n, hn, h⟩ := ih
          refine ⟨n + 1, ?_, .insert y h⟩
          simp only [List.length_nil, List.length_cons] at hn ⊢
          omega
  | cons x a ih =>
      cases b with
      | nil =>
          obtain ⟨n, hn, h⟩ := ih []
          refine ⟨n + 1, ?_, .delete x h⟩
          simp only [List.length_nil, List.length_cons] at hn ⊢
          omega
      | cons y b =>
          obtain ⟨n, hn, h⟩ := ih b
          refine ⟨n + 1, ?_, .replace x y h⟩
          simp only [List.length_cons]
          omega

/-! ### Distances -/

/-- The least number of edits that turn `a` into `b`. -/
def IsDistance (a b : List Char) (n : Nat) : Prop :=
  IsLeast {m | Edits m a b} n

namespace IsDistance

variable {a b : List Char} {n corner up left : Nat} {x y : Char}

lemma edits (h : IsDistance a b n) : Edits n a b := h.1

lemma le {m : Nat} (h : IsDistance a b n) (hm : Edits m a b) : n ≤ m := h.2 hm

lemma symm (h : IsDistance a b n) : IsDistance b a n :=
  ⟨h.edits.symm, fun _ hm => h.le (Edits.symm hm)⟩

lemma reverse (h : IsDistance a b n) : IsDistance a.reverse b.reverse n := by
  refine ⟨h.edits.reverse, fun m hm => h.le ?_⟩
  have hback := Edits.reverse hm
  rwa [List.reverse_reverse, List.reverse_reverse] at hback

/-- All characters of a text have to be deleted. -/
lemma nil_right (a : List Char) : IsDistance a [] a.length := by
  refine ⟨?_, fun m hm => (Edits.length_left hm).ge⟩
  obtain ⟨n, -, h⟩ := edits_max_length a []
  exact h.length_left ▸ h

lemma nil_left (b : List Char) : IsDistance [] b b.length := (nil_right b).symm

/-- The distance of two texts with one more character each, from those with one more of either
and of neither. -/
lemma step (hcorner : IsDistance a b corner) (hup : IsDistance a (y :: b) up)
    (hleft : IsDistance (x :: a) b left) :
    IsDistance (x :: a) (y :: b)
      (min (min (left + 1) (up + 1)) (if x == y then corner else corner + 1)) := by
  refine ⟨?_, fun m hm => ?_⟩
  · have hdiagonal : Edits (if x == y then corner else corner + 1) (x :: a) (y :: b) := by
      split
      · next heq => exact eq_of_beq heq ▸ .keep x hcorner.edits
      · exact .replace x y hcorner.edits
    -- The minimum is one of the three numbers, each of which is a number of edits.
    rcases min_choice (min (left + 1) (up + 1)) (if x == y then corner else corner + 1) with h | h
    · rcases min_choice (left + 1) (up + 1) with h' | h'
      · rw [h, h']
        exact .insert y hleft.edits
      · rw [h, h']
        exact .delete x hup.edits
    · rw [h]
      exact hdiagonal
  · cases hm with
    | keep _ h =>
        rw [if_pos (beq_self_eq_true x)]
        exact (min_le_right _ _).trans (hcorner.le h)
    | delete _ h =>
        have hle := hup.le h
        omega
    | insert _ h =>
        have hle := hleft.le h
        omega
    | replace _ _ h =>
        have hle := hcorner.le h
        split <;> omega

end IsDistance

/-! ### Rows -/

/-- The beginnings of a text that go beyond one of them, all in reverse. -/
def longerBeginnings (read : List Char) : List Char → List (List Char)
  | [] => []
  | y :: rest => (y :: read) :: longerBeginnings (y :: read) rest

/-- The beginnings of a text in reverse. -/
def beginnings (b : List Char) : List (List Char) := [] :: longerBeginnings [] b

section Rows

variable {a b read rest : List Char} {corner left : Nat} {above row : List Nat} (x : Char)

lemma forall₂_distanceRowFrom (hcorner : IsDistance a read corner)
    (habove : List.Forall₂ (IsDistance a) (longerBeginnings read rest) above)
    (hleft : IsDistance (x :: a) read left) :
    List.Forall₂ (IsDistance (x :: a)) (longerBeginnings read rest)
      (distanceRowFrom x rest corner above left) := by
  induction rest generalizing read corner above left with
  | nil => exact .nil
  | cons y rest ih =>
      cases habove with
      | cons hup habove =>
          have hhere := hcorner.step hup hleft
          exact .cons hhere (ih hup habove hhere)

/-- **A row of distances is followed by a row of distances.** -/
lemma forall₂_distanceRow (h : List.Forall₂ (IsDistance a) (beginnings b) row) :
    List.Forall₂ (IsDistance (x :: a)) (beginnings b) (distanceRow x b row) := by
  cases h with
  | @cons _ first _ _ hfirst habove =>
      have hdeleted : IsDistance (x :: a) [] (first + 1) := by
        rw [hfirst.edits.length_left]
        exact IsDistance.nil_right (x :: a)
      exact .cons hdeleted (forall₂_distanceRowFrom x hfirst habove hdeleted)

lemma forall₂_range (b : List Char) :
    List.Forall₂ (IsDistance []) (beginnings b) (List.range (b.length + 1)) := by
  have hrest (read rest : List Char) :
      List.Forall₂ (IsDistance []) (longerBeginnings read rest)
        (List.range' (read.length + 1) rest.length) := by
    induction rest generalizing read with
    | nil => exact .nil
    | cons y rest ih => exact .cons (.nil_left (y :: read)) (ih (y :: read))
  rw [List.range_eq_range', List.range'_succ]
  exact .cons (.nil_left []) (hrest [] b)

lemma forall₂_foldl_distanceRow (rest : List Char)
    (h : List.Forall₂ (IsDistance a) (beginnings b) row) :
    List.Forall₂ (IsDistance (rest.reverse ++ a)) (beginnings b)
      (rest.foldl (fun row x => distanceRow x b row) row) := by
  induction rest generalizing a row with
  | nil => exact h
  | cons x rest ih =>
      rw [List.reverse_cons, List.append_assoc, List.singleton_append]
      exact ih (forall₂_distanceRow x h)

/-- The last distance of a row is that of the whole text. -/
lemma isDistance_getLastD
    (h : List.Forall₂ (IsDistance a) (read :: longerBeginnings read rest) row) :
    IsDistance a (rest.reverse ++ read) (row.getLastD 0) := by
  induction rest generalizing read row with
  | nil =>
      cases h with
      | cons hread hrest =>
          cases hrest
          exact hread
  | cons y rest ih =>
      cases h with
      | cons hread hrest =>
          have hlast := ih hrest
          cases hrest
          rw [List.reverse_cons, List.append_assoc, List.singleton_append]
          exact hlast

end Rows

/-! ### The edit distance -/

/-- **The edit distance is the least number of edits.** -/
theorem isDistance_editDistance (a b : List Char) : IsDistance a b (editDistance a b) := by
  have hrow := forall₂_foldl_distanceRow a (forall₂_range b)
  have hlast := (isDistance_getLastD hrow).reverse
  rwa [List.append_nil, List.append_nil, List.reverse_reverse, List.reverse_reverse] at hlast

theorem editDistance_comm (a b : List Char) : editDistance a b = editDistance b a :=
  (isDistance_editDistance a b).unique (isDistance_editDistance b a).symm

theorem editDistance_le_max_length (a b : List Char) :
    editDistance a b ≤ max a.length b.length := by
  obtain ⟨n, hn, h⟩ := edits_max_length a b
  exact ((isDistance_editDistance a b).le h).trans hn

theorem editDistance_eq_zero_iff {a b : List Char} : editDistance a b = 0 ↔ a = b := by
  refine ⟨fun h => (h ▸ (isDistance_editDistance a b).edits).eq_of_zero, ?_⟩
  rintro rfl
  exact Nat.le_zero.mp ((isDistance_editDistance a a).le (.refl a))

end ChatCommand

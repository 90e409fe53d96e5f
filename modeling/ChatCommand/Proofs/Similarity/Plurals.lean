/-
Plural and possessive endings.

A singular is made by one rule for the end of a text, so a text keeps an ending that stands in front
of the one that is taken away.

* `HasEnding`, `singularReversed_cases`: the endings that are taken away;
* `singularReversed_cons_s`: an s behind three letters is the ending of a plural;
* `sameUpToNumber_iff`: the singulars of two texts are compared as they are;
* `AgreeInFull`, `agreeInFull_iff`: **two texts agree in full exactly if they are the same up to
  number**;
* `sameUpToNumber_possessive_iff`: a text and its possessive are, exactly if the text has no ending
  itself and no last letter that is another in front of the possessive;
* `sameUpToNumber_plural_iff`: a word and its plural are, exactly if the plural does not end in -ies.
-/
import ChatCommand.Proofs.Recognition.FullNames
import ChatCommand.Proofs.Similarity.Agreement
import ChatCommand.Proofs.Text.Ends

namespace ChatCommand

open Text

/-! ### Endings -/

/-- A text in lower case has a plural or possessive ending: it ends in 's or s', or it is longer
than three characters and ends in an s that does not follow another. -/
def HasEnding (s : List Char) : Prop :=
  ['\'', 's'] <:+ s ∨ ['s', '\''] <:+ s ∨ 3 < s.length ∧ ['s'] <:+ s ∧ ¬['s', 's'] <:+ s

instance : DecidablePred HasEnding := fun _ => inferInstanceAs (Decidable (_ ∨ _ ∨ _ ∧ _ ∧ _))

lemma hasEnding_reverse_iff {word : List Char} :
    HasEnding word.reverse ↔
      ['s', '\''] <+: word ∨ ['\'', 's'] <+: word
        ∨ 3 < word.length ∧ ['s'] <+: word ∧ ¬['s', 's'] <+: word := by
  simp only [HasEnding, ← List.reverse_prefix, List.reverse_reverse, List.length_reverse]
  rfl

/-- A text without an ending is its own singular, and one with an ending is longer. -/
lemma singularReversed_cases (s : List Char) :
    ¬HasEnding s ∧ singularReversed s.reverse = s.reverse
      ∨ HasEnding s ∧ (singularReversed s.reverse).length < s.length := by
  obtain ⟨word, rfl⟩ : ∃ word, s = List.reverse word := ⟨s.reverse, s.reverse_reverse.symm⟩
  rw [hasEnding_reverse_iff, List.reverse_reverse, List.length_reverse]
  fun_cases singularReversed word with
  | case1 stem => exact .inr ⟨.inl (by simp), by simp⟩
  | case2 stem => exact .inr ⟨.inr (.inl (by simp)), by simp⟩
  | case3 _ hs hapostrophe hshort =>
      refine .inl ⟨?_, rfl⟩
      rintro (⟨stem, h⟩ | ⟨stem, h⟩ | h)
      · exact hs stem h.symm
      · exact hapostrophe stem h.symm
      · exact hshort.not_gt h.1
  | case4 stem _ _ hlong =>
      exact .inr ⟨.inr (.inr ⟨Nat.not_le.mp hlong, by simp⟩), by simp⟩
  | case5 stem => exact .inl ⟨by simp, rfl⟩
  | case6 stem _ hdouble _ _ hlong =>
      refine .inr ⟨.inr (.inr ⟨Nat.not_le.mp hlong, by simp, ?_⟩), by simp⟩
      rintro ⟨rest, h⟩
      exact hdouble rest (List.cons.inj h).2.symm
  | case7 _ _ hapostrophe _ _ _ hs =>
      refine .inl ⟨?_, rfl⟩
      rintro (⟨stem, h⟩ | ⟨stem, h⟩ | ⟨-, ⟨stem, h⟩, -⟩)
      · exact hs _ h.symm
      · exact hapostrophe stem h.symm
      · exact hs stem h.symm

lemma not_hasEnding_of_not_suffix {s : List Char} (hs : ¬['s'] <:+ s)
    (hapostrophe : ¬['\''] <:+ s) : ¬HasEnding s := by
  rintro (hsuffix | hsuffix | ⟨-, hsuffix, -⟩)
  · exact hs (List.IsSuffix.trans (by decide) hsuffix)
  · exact hapostrophe (List.IsSuffix.trans (by decide) hsuffix)
  · exact hs hsuffix

/-- The s of a plural is taken away, but -ies is the plural of -y. -/
lemma singularReversed_cons_s {stem : List Char} (hlong : 3 ≤ stem.length)
    (hs : ¬['s'] <+: stem) (hapostrophe : ¬['\''] <+: stem) :
    singularReversed ('s' :: stem) = stem ↔ ¬['e', 'i'] <+: stem := by
  generalize hword : 's' :: stem = word
  fun_cases singularReversed word with
  | case1 rest =>
      cases hword
      simp at hapostrophe
  | case2 rest => simp at hword
  | case3 _ _ _ hshort =>
      rw [← hword, List.length_cons] at hshort
      omega
  | case4 rest =>
      cases hword
      exact iff_of_false (ne_of_apply_ne List.length (by simp)) (by simp)
  | case5 rest =>
      cases hword
      simp at hs
  | case6 rest hies =>
      cases hword
      exact iff_of_true rfl fun ⟨_, h⟩ => hies _ h.symm
  | case7 _ _ _ _ _ _ hnone => exact absurd hword.symm (hnone stem)

/-! ### Singulars -/

lemma mem_singularReversed {word : List Char} {c : Char} (h : c ∈ singularReversed word) :
    c = 'y' ∨ c ∈ word := by
  revert h
  fun_cases singularReversed word <;> simp +contextual [or_imp]

lemma mem_of_mem_trim {s : List Char} {c : Char} (h : c ∈ trim s) : c ∈ s :=
  (List.dropWhile_sublist _).subset
    (List.mem_reverse.mp ((List.dropWhile_sublist _).subset (List.mem_reverse.mp h)))

lemma toList_singular (s : String) :
    (singular s).toList = (singularReversed (trim (lowercaseChars s.toList)).reverse).reverse :=
  String.toList_ofList

/-- A singular is in lower case. -/
lemma lowercase_singular (s : String) : lowercase (singular s) = singular s := by
  have hsettled : ∀ c ∈ (singular s).toList, lowerChar c = [c] ∧ c ≠ 'Σ' := by
    intro c hc
    rw [toList_singular, List.mem_reverse] at hc
    rcases mem_singularReversed hc with rfl | hc
    · decide
    · exact settled_of_mem_lowercaseChars c (mem_of_mem_trim (List.mem_reverse.mp hc))
  rw [lowercase, lowercaseChars_eq_self hsettled, String.ofList_toList]

/-- Of texts without white space around them the endings alone are taken away. -/
lemma sameUpToNumber_iff {a b : String} (ha : IsTrimmed a.toList) (hb : IsTrimmed b.toList) :
    SameUpToNumber a b ↔
      lowercaseChars a.toList = lowercaseChars b.toList
        ∨ singularReversed (lowercaseChars a.toList).reverse
            = singularReversed (lowercaseChars b.toList).reverse := by
  rw [SameUpToNumber, SameUpToCase, SameUpToCase, lowercase_singular, lowercase_singular,
    lowercase, lowercase, String.ofList_inj, ← String.toList_inj, toList_singular,
    toList_singular, (isTrimmed_lowercaseChars ha).trim_eq, (isTrimmed_lowercaseChars hb).trim_eq,
    List.reverse_inj]

/-! ### Agreement in full -/

/-- Two texts are a hundred percent similar without their endings, in either order and whatever the
arithmetic. -/
structure AgreeInFull (a b : String) : Prop where
  machine : (singularSimilarity a b : Score) = .hundred
  machine_swap : (singularSimilarity b a : Score) = .hundred
  exact : (singularSimilarity a b : ℚ) = 100
  exact_swap : (singularSimilarity b a : ℚ) = 100

lemma SameUpToNumber.symm {a b : String} (h : SameUpToNumber a b) : SameUpToNumber b a :=
  h.imp Eq.symm Eq.symm

/-- In exact arithmetic no other texts are a hundred percent similar. -/
lemma singularSimilarity_eq_hundred_iff {a b : String} :
    (singularSimilarity a b : ℚ) = 100 ↔ SameUpToNumber a b := by
  have hle (c d : String) : (similarity c d : ℚ) ≤ 100 := (similarity_mem c d).2
  rw [singularSimilarity_eq, SameUpToNumber, SameUpToCase, SameUpToCase,
    ← similarity_eq_hundred_iff, ← similarity_eq_hundred_iff]
  constructor
  · intro h
    rcases max_choice (similarity a b : ℚ) (similarity (singular a) (singular b)) with hmax | hmax
    · exact .inl (hmax.symm.trans h)
    · exact .inr (hmax.symm.trans h)
  · rintro (h | h)
    · rw [h, max_eq_left (hle _ _)]
    · rw [h, max_eq_right (hle _ _)]

/-- **Two texts agree in full exactly if they are the same up to number.** -/
theorem agreeInFull_iff {a b : String} : AgreeInFull a b ↔ SameUpToNumber a b :=
  ⟨fun h => singularSimilarity_eq_hundred_iff.mp h.exact, fun h =>
    { machine := singularSimilarity_eq_hundred h
      machine_swap := singularSimilarity_eq_hundred h.symm
      exact := singularSimilarity_eq_hundred_iff.mpr h
      exact_swap := singularSimilarity_eq_hundred_iff.mpr h.symm }⟩

/-! ### Possessives and plurals -/

section Inflection

variable {w : String}

/-- A text and its possessive are the same up to number exactly if the text has no ending itself,
and no capital sigma that is the final form of the letter without the possessive alone. -/
theorem sameUpToNumber_possessive_iff (hw : IsTrimmed w.toList) :
    SameUpToNumber (w ++ "'s") w ↔
      ¬HasEnding (lowercaseChars w.toList) ∧ ¬EndsInSigma [] w.toList := by
  have htrimmed : IsTrimmed ['\'', 's'] :=
    isTrimmed_of_forall (List.forall_mem_cons.mpr ⟨rfl, List.forall_mem_singleton.mpr rfl⟩)
  have hsettled : ∀ c ∈ ['\'', 's'], lowerChar c = [c] ∧ c ≠ 'Σ' :=
    List.forall_mem_cons.mpr ⟨by decide, List.forall_mem_singleton.mpr (by decide)⟩
  obtain ⟨small, hsmall, hlength, hsame⟩ :=
    exists_lowercaseFrom_append [] w.toList (t := ['\'', 's']) (by decide +kernel)
  have happend : (w ++ "'s").toList = w.toList ++ ['\'', 's'] := String.toList_append
  have hlower : lowercaseChars (w ++ "'s").toList = small ++ ['\'', 's'] := by
    rw [happend, lowercaseChars_eq_lowercaseFrom, hsmall, lowercaseFrom_eq_self _ hsettled]
  rw [← lowercaseChars_eq_lowercaseFrom] at hlength hsame
  have hlonger : small ++ ['\'', 's'] ≠ lowercaseChars w.toList :=
    ne_of_apply_ne List.length (by simp [hlength])
  have hstem : singularReversed (small ++ ['\'', 's']).reverse = small.reverse := by
    rw [List.reverse_append]
    rfl
  rw [sameUpToNumber_iff (happend ▸ hw.append htrimmed) hw, hlower, or_iff_right hlonger, hstem,
    ← hsame]
  rcases singularReversed_cases (lowercaseChars w.toList) with ⟨hnone, hself⟩ | ⟨hending, hshorter⟩
  · rw [hself, List.reverse_inj]
    exact ⟨fun h => ⟨hnone, h⟩, fun h => h.2⟩
  · refine iff_of_false (ne_of_apply_ne List.length ?_) fun h => h.1 hending
    rw [List.length_reverse]
    omega

/-- A word and its plural are the same up to number exactly if the plural is not read as that of a
word in -y. -/
theorem sameUpToNumber_plural_iff (hletters : ∀ c ∈ w.toList, c.isLower = true)
    (hlong : 3 ≤ w.toList.length) (hs : ¬['s'] <:+ w.toList) :
    SameUpToNumber (w ++ "s") w ↔ ¬['i', 'e'] <:+ w.toList := by
  have happend : (w ++ "s").toList = w.toList ++ ['s'] := String.toList_append
  have hplural : ∀ c ∈ (w ++ "s").toList, c.isLower = true := by
    rw [happend, List.forall_mem_append]
    exact ⟨hletters, List.forall_mem_singleton.mpr rfl⟩
  have hlonger : w.toList ++ ['s'] ≠ w.toList := ne_of_apply_ne List.length (by simp)
  have hapostrophe : ¬['\''] <:+ w.toList := fun hsuffix =>
    absurd (hletters '\'' (hsuffix.subset (by simp))) (by decide)
  have hnone := not_hasEnding_of_not_suffix hs hapostrophe
  have hself : singularReversed w.toList.reverse = w.toList.reverse :=
    ((singularReversed_cases w.toList).resolve_right fun h => hnone h.1).2
  have hstem := @singularReversed_cons_s w.toList.reverse
  rw [List.length_reverse] at hstem
  simp only [← List.reverse_suffix, List.reverse_reverse] at hstem
  rw [sameUpToNumber_iff (isTrimmed_of_isLower hplural) (isTrimmed_of_isLower hletters),
    lowercaseChars_of_isLower hplural, lowercaseChars_of_isLower hletters, happend,
    or_iff_right hlonger, hself, List.reverse_append]
  exact hstem hlong hs hapostrophe

/-- **Words agree in full with their possessives and plurals.** A text with nothing around it does
with its possessive exactly if it has no ending itself and no capital sigma that is the final form
of the letter without the possessive alone. A word of three letters or more that does not end in s
does with its plural exactly if the plural is not read as that of a word in -y. -/
theorem agreeInFull_inflected :
    (∀ w : String, IsTrimmed w.toList →
      (AgreeInFull (w ++ "'s") w ↔
        ¬HasEnding (lowercaseChars w.toList) ∧ ¬EndsInSigma [] w.toList))
      ∧ ∀ w : String, (∀ c ∈ w.toList, c.isLower = true) → 3 ≤ w.toList.length →
          ¬['s'] <:+ w.toList → (AgreeInFull (w ++ "s") w ↔ ¬['i', 'e'] <:+ w.toList) := by
  refine ⟨fun w hw => ?_, fun w hletters hlong hs => ?_⟩
  · rw [agreeInFull_iff, sameUpToNumber_possessive_iff hw]
  · rw [agreeInFull_iff, sameUpToNumber_plural_iff hletters hlong hs]

/-- Bob's and boys. -/
theorem agreeInFull_bob : AgreeInFull "Bob's" "Bob" ∧ AgreeInFull "boys" "boy" := by
  have hbob : IsTrimmed "Bob".toList := ⟨by rintro _ ⟨⟩; rfl, by rintro _ ⟨⟩; rfl⟩
  have hsigma : ¬EndsInSigma [] "Bob".toList := fun ⟨u, v, h, _⟩ => by
    have hmem : 'Σ' ∈ "Bob".toList := h ▸ List.mem_append_right u List.mem_cons_self
    revert hmem
    decide
  exact ⟨(agreeInFull_inflected.1 "Bob" hbob).mpr ⟨by decide, hsigma⟩,
    (agreeInFull_inflected.2 "boy" (List.all_eq_true.mp rfl) (by decide) (by decide)).mpr (by decide)⟩

/-- James is read as a plural and zombies as that of zomby, and the sigma at the end of a word is
another letter than the sigma in front of an ending. -/
theorem not_agreeInFull_james :
    IsTrimmed "james".toList ∧ (singularSimilarity "james's" "james" : ℚ) = 80
      ∧ ¬AgreeInFull "james's" "james"
      ∧ IsTrimmed "ΟΔΟΣ".toList ∧ (singularSimilarity "ΟΔΟΣ's" "ΟΔΟΣ" : ℚ) = 75
      ∧ ¬AgreeInFull "ΟΔΟΣ's" "ΟΔΟΣ"
      ∧ (∀ c ∈ "zombie".toList, c.isLower = true) ∧ 3 ≤ "zombie".toList.length
      ∧ ¬['s'] <:+ "zombie".toList ∧ ¬['y'] <:+ "zombie".toList
      ∧ (singularSimilarity "zombies" "zombie" : ℚ) = 600 / 7
      ∧ ¬AgreeInFull "zombies" "zombie" := by
  have hjames : (singularSimilarity "james's" "james" : ℚ) = 80 := by decide +kernel
  have hodos : (singularSimilarity "ΟΔΟΣ's" "ΟΔΟΣ" : ℚ) = 75 := by decide +kernel
  have hzombie : (singularSimilarity "zombies" "zombie" : ℚ) = 600 / 7 := by decide +kernel
  have hdiffer {a b : String} {q : ℚ} (h : (singularSimilarity a b : ℚ) = q) (hq : q ≠ 100) :
      ¬AgreeInFull a b := fun hagree => hq (h.symm.trans hagree.exact)
  exact ⟨⟨by rintro _ ⟨⟩; rfl, by rintro _ ⟨⟩; rfl⟩, hjames, hdiffer hjames (by norm_num),
    ⟨by rintro _ ⟨⟩; rfl, by rintro _ ⟨⟩; rfl⟩, hodos, hdiffer hodos (by norm_num),
    List.all_eq_true.mp rfl, by decide, by decide, by decide, hzombie, hdiffer hzombie (by norm_num)⟩

end Inflection

end ChatCommand

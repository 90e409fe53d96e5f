/-
The last word of a text and its ending.

The ending is taken from a whole text, and so is the length that spares short texts: a short word
that would keep its s alone loses it behind other words.

* `IsTidy`: a text in lower case with nothing around it;
* `EndsInLoneS`: a text ends in an s that follows neither another nor an apostrophe;
* `singularReversed_append_blank_iff`: the end of the last word against the end of the text;
* `singular_append_word_iff`: **the ending of a text is that of its last word, unless this is too
  short to lose an s of its own**.
-/
import ChatCommand.Proofs.Similarity.Plurals

namespace ChatCommand

open Text

/-! ### Texts in lower case -/

/-- The text is in lower case, and has something in it and no white space around it. -/
structure IsTidy (s : String) : Prop where
  ne_nil : s.toList ≠ []
  trimmed : IsTrimmed s.toList
  lower : lowercase s = s

variable {s : String}

lemma isBlank_of_isLower (h : ∀ c ∈ s.toList, c.isLower = true) :
    ∀ c ∈ s.toList, isBlank c = false :=
  fun c hc => isBlank_of_isSmallLetter (isSmallLetter_of_isLower (h c hc))

lemma isTidy_of_isLower (hne : s.toList ≠ []) (h : ∀ c ∈ s.toList, c.isLower = true) :
    IsTidy s where
  ne_nil := hne
  trimmed := isTrimmed_of_isLower h
  lower := by rw [lowercase, lowercaseChars_of_isLower h, String.ofList_toList]

namespace IsTidy

lemma lowercaseChars_eq (h : IsTidy s) : lowercaseChars s.toList = s.toList := by
  have hlower := congrArg String.toList h.lower
  rwa [lowercase, String.toList_ofList] at hlower

lemma settled (h : IsTidy s) : ∀ c ∈ s.toList, lowerChar c = [c] ∧ c ≠ 'Σ' :=
  h.lowercaseChars_eq ▸ settled_of_mem_lowercaseChars

/-- Nothing but the ending is taken away. -/
lemma toList_singular_eq (h : IsTidy s) :
    (singular s).toList = (singularReversed s.toList.reverse).reverse := by
  rw [toList_singular, h.lowercaseChars_eq, h.trimmed.trim_eq]

/-- Two of them with a space between them are one again. -/
lemma append {t : String} (hs : IsTidy s) (ht : IsTidy t) : IsTidy (s ++ " " ++ t) := by
  have hparts : (s ++ " " ++ t).toList = s.toList ++ ' ' :: t.toList := by
    simp [String.toList_append]
  have hsettled : ∀ c ∈ s.toList ++ ' ' :: t.toList, lowerChar c = [c] ∧ c ≠ 'Σ' := by
    rw [List.forall_mem_append, List.forall_mem_cons]
    exact ⟨hs.settled, by decide, ht.settled⟩
  refine ⟨by simp [hparts], ?_, ?_⟩
  · refine ⟨fun c hc => hs.trimmed.start c ?_, fun c hc => ht.trimmed.finish c ?_⟩
    · rwa [hparts, List.head?_append_of_ne_nil _ hs.ne_nil] at hc
    · rwa [hparts, List.getLast?_append_of_ne_nil _ (List.cons_ne_nil _ _),
        List.getLast?_cons_of_ne_nil ht.ne_nil] at hc
  · rw [lowercase, hparts, lowercaseChars_eq_self hsettled, ← hparts, String.ofList_toList]

end IsTidy

/-! ### Endings of the last word -/

/-- A text ends in an s that follows neither another s nor an apostrophe. -/
def EndsInLoneS (s : List Char) : Prop :=
  ['s'] <:+ s ∧ ¬['s', 's'] <:+ s ∧ ¬['\'', 's'] <:+ s

instance : DecidablePred EndsInLoneS := fun _ => inferInstanceAs (Decidable (_ ∧ _ ∧ _))

/-- What holds no space begins a text exactly if it begins the first word. -/
lemma prefix_append_blank_iff {start word before : List Char} (hstart : ' ' ∉ start) :
    start <+: word ++ ' ' :: before ↔ start <+: word := by
  refine ⟨fun h => ?_, fun h => h.trans (List.prefix_append _ _)⟩
  rcases List.prefix_or_prefix_of_prefix h (List.prefix_append word _) with hshort | ⟨rest, rfl⟩
  · exact hshort
  · obtain ⟨more, hmore⟩ := (List.prefix_append_right_inj word).mp h
    cases rest with
    | nil => simp
    | cons c rest =>
        obtain ⟨rfl, -⟩ := List.cons.inj hmore
        exact absurd (List.mem_append_right word List.mem_cons_self) hstart

lemma not_isPrefix_of_forall_ne {start word : List Char} (h : ∀ rest, word ≠ start ++ rest) :
    ¬start <+: word := by
  rintro ⟨rest, hrest⟩
  exact h rest hrest.symm

/-- A text stays as it is exactly if it has no ending. -/
lemma singularReversed_eq_self_iff (word : List Char) :
    singularReversed word = word ↔ ¬HasEnding word.reverse := by
  have hcases := singularReversed_cases word.reverse
  rw [List.reverse_reverse, List.length_reverse] at hcases
  rcases hcases with ⟨hnone, hself⟩ | ⟨hending, hshorter⟩
  · exact iff_of_true hself hnone
  · refine iff_of_false (fun hself => ?_) (not_not.mpr hending)
    exact absurd (congrArg List.length hself) hshorter.ne

/-- In reverse, the end of a text is that of its last word, unless a word of three characters at
most ends in an s of its own and the text is longer than that. -/
lemma singularReversed_append_blank_iff {word : List Char} (hword : ' ' ∉ word)
    (before : List Char) :
    singularReversed (word ++ ' ' :: before) = singularReversed word ++ ' ' :: before ↔
      ¬((word.length ≤ 3 ∧ EndsInLoneS word.reverse) ∧ 2 < word.length + before.length) := by
  have hlone : EndsInLoneS word.reverse ↔
      ['s'] <+: word ∧ ¬['s', 's'] <+: word ∧ ¬['s', '\''] <+: word := by
    simp only [EndsInLoneS, ← List.reverse_prefix, List.reverse_reverse]
    rfl
  rw [hlone]
  fun_cases singularReversed word with
  | case1 stem => simp [singularReversed]
  | case2 stem => simp [singularReversed]
  | case3 _ hs hapostrophe hshort =>
      rw [singularReversed_eq_self_iff, hasEnding_reverse_iff,
        prefix_append_blank_iff (by decide), prefix_append_blank_iff (by decide),
        prefix_append_blank_iff (by decide), prefix_append_blank_iff (by decide),
        List.length_append, List.length_cons]
      have hs' : ¬['s', '\''] <+: word := not_isPrefix_of_forall_ne hs
      have hapostrophe' : ¬['\'', 's'] <+: word := not_isPrefix_of_forall_ne hapostrophe
      have hlength : 3 < word.length + (before.length + 1) ↔ 2 < word.length + before.length := by
        omega
      grind
  | case4 stem _ _ hlong =>
      have hshort : ¬stem.length + 3 ≤ 3 := hlong
      simp [singularReversed, hshort]
      omega
  | case5 stem => simp [singularReversed]
  | case6 stem hies hdouble hpossessive _ hlong =>
      have hstem : ' ' ∉ stem := fun hmem => hword (List.mem_cons_of_mem _ hmem)
      have hs : ¬['s'] <+: stem ++ ' ' :: before := by
        rw [prefix_append_blank_iff (by decide)]
        exact not_isPrefix_of_forall_ne hdouble
      have hapostrophe : ¬['\''] <+: stem ++ ' ' :: before := by
        rw [prefix_append_blank_iff (by decide)]
        exact not_isPrefix_of_forall_ne fun rest h => hpossessive rest (congrArg _ h)
      have hlength : 3 ≤ (stem ++ ' ' :: before).length := by
        rw [List.length_cons] at hlong
        rw [List.length_append]
        omega
      refine iff_of_true ?_ fun h => hlong h.1.1
      rw [List.cons_append, singularReversed_cons_s hlength hs hapostrophe,
        prefix_append_blank_iff (by decide)]
      exact not_isPrefix_of_forall_ne hies
  | case7 _ hpossessive hapostrophe hlong _ _ hs =>
      refine iff_of_true ?_ fun h => hlong h.1.1
      rw [singularReversed_eq_self_iff, hasEnding_reverse_iff,
        prefix_append_blank_iff (by decide), prefix_append_blank_iff (by decide),
        prefix_append_blank_iff (by decide)]
      rintro (⟨stem, h⟩ | ⟨stem, h⟩ | ⟨-, ⟨stem, h⟩, -⟩)
      · exact hpossessive stem h.symm
      · exact hapostrophe stem h.symm
      · exact hs stem h.symm

/-! ### Texts of several words -/

section LastWord

variable {p w : String}

/-- The last word becomes what it becomes alone exactly if it does not lose its s for the length of
the whole text. -/
lemma singular_append_word_eq_iff (hp : IsTidy p) (hw : IsTidy w)
    (hword : ∀ c ∈ w.toList, isBlank c = false) :
    singular (p ++ " " ++ w) = p ++ " " ++ singular w ↔
      ¬((w.toList.length ≤ 3 ∧ EndsInLoneS w.toList)
        ∧ 2 < p.toList.length + w.toList.length) := by
  have hblank : ' ' ∉ w.toList.reverse := fun hmem =>
    absurd (hword ' ' (List.mem_reverse.mp hmem)) (by decide)
  have happend (t : String) : (p ++ " " ++ t).toList = p.toList ++ ' ' :: t.toList := by
    simp [String.toList_append]
  have hlast := singularReversed_append_blank_iff hblank p.toList.reverse
  rw [List.reverse_reverse, List.length_reverse, List.length_reverse, Nat.add_comm w.toList.length]
    at hlast
  rw [← hlast, ← String.toList_inj, (hp.append hw).toList_singular_eq, happend, happend,
    hw.toList_singular_eq, ← List.reverse_inj, List.reverse_reverse]
  simp

/-- A short word without an apostrophe is its own singular. -/
lemma singular_eq_self_of_short (hw : IsTidy w) (hshort : w.toList.length ≤ 3)
    (hapostrophe : '\'' ∉ w.toList) : singular w = w := by
  have hnone : ¬HasEnding w.toList := by
    rintro (hsuffix | hsuffix | ⟨hlong, -⟩)
    · exact hapostrophe (hsuffix.subset (by simp))
    · exact hapostrophe (hsuffix.subset (by simp))
    · omega
  have hself := singularReversed_eq_self_iff w.toList.reverse
  rw [List.reverse_reverse] at hself
  rw [← String.toList_inj, hw.toList_singular_eq, hself.mpr hnone, List.reverse_reverse]

/-- **The ending of a text is that of its last word, unless this has at most three characters and
ends in an s that follows neither another nor an apostrophe.** Such a word keeps its s alone but not
behind other words, save an s behind a single character. Under the same condition a last word of at
most three characters without an apostrophe is left as it is. -/
theorem singular_append_word_iff (hp : IsTidy p) (hw : IsTidy w)
    (hword : ∀ c ∈ w.toList, isBlank c = false) :
    (singular (p ++ " " ++ w) = p ++ " " ++ singular w ↔
        ¬((w.toList.length ≤ 3 ∧ EndsInLoneS w.toList)
          ∧ 2 < p.toList.length + w.toList.length))
      ∧ (w.toList.length ≤ 3 → '\'' ∉ w.toList →
        (singular (p ++ " " ++ w) = p ++ " " ++ w ↔
          ¬(EndsInLoneS w.toList ∧ 2 < p.toList.length + w.toList.length))) := by
  refine ⟨singular_append_word_eq_iff hp hw hword, fun hshort hapostrophe => ?_⟩
  have hiff := singular_append_word_eq_iff hp hw hword
  rwa [singular_eq_self_of_short hw hshort hapostrophe, and_iff_right hshort] at hiff

/-- New maps are each a new map. -/
theorem singular_new_maps :
    IsTidy "new" ∧ IsTidy "maps" ∧ (∀ c ∈ "maps".toList, isBlank c = false)
      ∧ singular ("new" ++ " " ++ "maps") = "new" ++ " " ++ singular "maps" := by
  have hnew : ∀ c ∈ "new".toList, c.isLower = true := List.all_eq_true.mp rfl
  have hmaps : ∀ c ∈ "maps".toList, c.isLower = true := List.all_eq_true.mp rfl
  have htidy := isTidy_of_isLower (by decide) hmaps
  have hword := isBlank_of_isLower hmaps
  exact ⟨isTidy_of_isLower (by decide) hnew, htidy, hword,
    (singular_append_word_iff (isTidy_of_isLower (by decide) hnew) htidy hword).1.mpr (by decide)⟩

/-- Gas is no plural, but behind another word it loses its s. -/
theorem singular_map_gas :
    IsTidy "map" ∧ IsTidy "gas" ∧ (∀ c ∈ "gas".toList, isBlank c = false)
      ∧ "gas".toList.length ≤ 3 ∧ '\'' ∉ "gas".toList
      ∧ singular "gas" = "gas" ∧ singular ("map" ++ " " ++ "gas") = "map ga"
      ∧ singular ("map" ++ " " ++ "gas") ≠ "map" ++ " " ++ singular "gas" := by
  have hmap : ∀ c ∈ "map".toList, c.isLower = true := List.all_eq_true.mp rfl
  have hgas : ∀ c ∈ "gas".toList, c.isLower = true := List.all_eq_true.mp rfl
  have hkept : singular "gas" = "gas" := by decide +kernel
  have hlost : singular ("map" ++ " " ++ "gas") = "map ga" := by decide +kernel
  refine ⟨isTidy_of_isLower (by decide) hmap, isTidy_of_isLower (by decide) hgas,
    isBlank_of_isLower hgas, by decide, by decide, hkept, hlost, ?_⟩
  rw [hkept, hlost]
  decide

end LastWord

end ChatCommand

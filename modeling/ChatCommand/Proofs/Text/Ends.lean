/-
The ends of a text in lower case.

* `IsTrimmed`: no white space at either end;
* `IsTrimmed.trim_eq`, `IsTrimmed.append`: nothing to be taken away, also behind another end;
* `IsTrimmed.trim_between`, `exists_eq_append_trim`: what is taken away is the white space around;
* `isTrimmed_lowercaseChars`: small forms are no white space;
* `EndsInSigma`: the last letter is a capital sigma that ends a word;
* `meetsCased_append`: what a word boundary meets in two texts;
* `exists_lowercaseFrom_append`: **a text has the same small form in front of a letter, unless it
  ends in a capital sigma**, which is then no longer the end of a word.
-/
import Mathlib.Data.List.TakeWhile
import ChatCommand.Proofs.Text.Lowercase

namespace ChatCommand.Text

/-! ### White space at the ends -/

/-- There is no white space at the ends of the text. -/
structure IsTrimmed (s : List Char) : Prop where
  start : ∀ c ∈ s.head?, isBlank c = false
  finish : ∀ c ∈ s.getLast?, isBlank c = false

variable {s t : List Char}

lemma trimStart_eq_self (h : ∀ c ∈ s.head?, isBlank c = false) : trimStart s = s := by
  cases s with
  | nil => rfl
  | cons c s => exact trimStart_cons (h c rfl) s

lemma isTrimmed_of_forall (h : ∀ c ∈ s, isBlank c = false) : IsTrimmed s :=
  ⟨fun c hc => h c (List.mem_of_mem_head? hc), fun c hc => h c (List.mem_of_getLast? hc)⟩

lemma isTrimmed_of_isLower (h : ∀ c ∈ s, c.isLower = true) : IsTrimmed s :=
  isTrimmed_of_forall fun c hc => isBlank_of_isSmallLetter (isSmallLetter_of_isLower (h c hc))

lemma trimEnd_eq_self (h : ∀ c ∈ s.getLast?, isBlank c = false) : trimEnd s = s := by
  have hback : trimStart s.reverse = s.reverse := trimStart_eq_self (List.head?_reverse ▸ h)
  exact (congrArg List.reverse hback).trans s.reverse_reverse

lemma IsTrimmed.trim_eq (h : IsTrimmed s) : trim s = s := by
  rw [trim, trimStart_eq_self h.start, trimEnd_eq_self h.finish]

/-- White space around a text is taken away. -/
lemma IsTrimmed.trim_between {before after : List Char} (h : IsTrimmed s)
    (hbefore : ∀ c ∈ before, isBlank c = true) (hafter : ∀ c ∈ after, isBlank c = true) :
    trim (before ++ s ++ after) = s := by
  have hstart : trimStart (before ++ s ++ after) = trimStart (s ++ after) := by
    rw [trimStart, List.append_assoc, List.dropWhile_append_of_pos hbefore, trimStart]
  have hfinish : trimEnd (s ++ after) = s := by
    rw [trimEnd, List.reverse_append, List.dropWhile_append_of_pos (by simpa using hafter)]
    exact trimEnd_eq_self h.finish
  rw [trim, hstart]
  cases s with
  | nil =>
      rw [List.nil_append, trimStart, List.dropWhile_eq_nil_iff.mpr hafter]
      rfl
  | cons c s => rwa [List.cons_append, trimStart_cons (h.start c rfl), ← List.cons_append]

/-- What is taken away around a text is white space. -/
lemma exists_eq_append_trim (s : List Char) :
    ∃ before after, s = before ++ trim s ++ after ∧ (∀ c ∈ before, isBlank c = true)
      ∧ ∀ c ∈ after, isBlank c = true := by
  refine ⟨s.takeWhile isBlank, ((trimStart s).reverse.takeWhile isBlank).reverse, ?_, ?_, ?_⟩
  · rw [List.append_assoc, trim, trimEnd, ← List.reverse_append, List.takeWhile_append_dropWhile,
      List.reverse_reverse, trimStart, List.takeWhile_append_dropWhile]
  · exact fun c hc => List.mem_takeWhile_imp hc
  · exact fun c hc => List.mem_takeWhile_imp (List.mem_reverse.mp hc)

lemma IsTrimmed.append (hs : IsTrimmed s) (ht : IsTrimmed t) : IsTrimmed (s ++ t) := by
  refine ⟨fun c hc => ?_, fun c hc => ?_⟩
  · rw [List.head?_append, Option.mem_def, Option.or_eq_some_iff] at hc
    exact hc.elim (hs.start c) fun hc => ht.start c hc.2
  · rw [List.getLast?_append, Option.mem_def, Option.or_eq_some_iff] at hc
    exact hc.elim (ht.finish c) fun hc => hs.finish c hc.2

/-- Small forms are no white space. -/
lemma IsSmallForm.isBlank_eq_false {c d : Char} {small : List Char} (h : IsSmallForm c small)
    (hc : isBlank c = false) (hd : d ∈ small) : isBlank d = false := by
  cases h with
  | same => rwa [List.mem_singleton.mp hd]
  | letters _ _ h => exact isBlank_of_isSmallLetter (h d hd)

lemma isTrimmed_lowercaseChars (h : IsTrimmed s) : IsTrimmed (lowercaseChars s) := by
  obtain ⟨pieces, hpieces, hlower⟩ := exists_lowercaseChars s
  obtain ⟨hstart, hfinish⟩ := h
  rw [hlower]
  clear hlower
  constructor
  · intro d hd
    cases hpieces with
    | nil => simp at hd
    | cons hform _ =>
        rw [List.flatten_cons, List.head?_append_of_ne_nil _ hform.ne_nil] at hd
        exact hform.isBlank_eq_false (hstart _ rfl) (List.mem_of_mem_head? hd)
  · clear hstart
    induction hpieces with
    | nil => simp
    | @cons c small rest pieces hform hrest ih =>
        intro d hd
        rw [List.flatten_cons, List.getLast?_append, Option.mem_def, Option.or_eq_some_iff] at hd
        cases hrest with
        | nil =>
            have hmem : d ∈ small := List.mem_of_getLast? (by simpa using hd)
            exact hform.isBlank_eq_false (hfinish c rfl) hmem
        | @cons c' small' rest pieces hform' hrest =>
            have hne : (small' :: pieces).flatten.getLast? ≠ none := by
              rw [List.flatten_cons, Ne, List.getLast?_eq_none_iff]
              exact List.append_ne_nil_of_left_ne_nil hform'.ne_nil _
            rw [List.getLast?_cons_cons] at hfinish
            exact ih hfinish d (hd.resolve_right fun hnone => hne hnone.1)

/-! ### Capital sigma -/

/-- The last letter of a text behind a beginning, given in reverse, is a capital sigma that ends a
word. -/
def EndsInSigma (before s : List Char) : Prop :=
  ∃ u v, s = u ++ 'Σ' :: v ∧ v.all isCaseIgnorable = true ∧ meetsCased (u.reverse ++ before) = true

lemma meetsCased_nil : meetsCased [] = false := rfl

/-- A word boundary looks through a text of characters that have no say. -/
lemma meetsCased_append (s t : List Char) :
    meetsCased (s ++ t) = if s.all isCaseIgnorable = true then meetsCased t else meetsCased s := by
  unfold meetsCased
  rw [List.dropWhile_append]
  cases hrest : s.dropWhile isCaseIgnorable with
  | nil =>
      have hall : s.all isCaseIgnorable = true := by
        rw [List.all_eq_true]
        exact List.dropWhile_eq_nil_iff.mp hrest
      rw [if_pos hall]
      rfl
  | cons c rest =>
      have hall : ¬s.all isCaseIgnorable = true := by
        rw [List.all_eq_true, ← List.dropWhile_eq_nil_iff, hrest]
        exact List.cons_ne_nil _ _
      rw [if_neg hall]
      rfl

lemma endsInSigma_cons {before : List Char} {c : Char} :
    EndsInSigma before (c :: s) ↔
      (c = 'Σ' ∧ s.all isCaseIgnorable = true ∧ meetsCased before = true)
        ∨ EndsInSigma (c :: before) s := by
  constructor
  · rintro ⟨u, v, hs, hv, hbefore⟩
    cases u with
    | nil =>
        obtain ⟨rfl, rfl⟩ := List.cons.inj hs
        exact .inl ⟨rfl, hv, hbefore⟩
    | cons d u =>
        obtain ⟨rfl, rfl⟩ := List.cons.inj hs
        refine .inr ⟨u, v, rfl, hv, ?_⟩
        rwa [List.reverse_cons, List.append_assoc] at hbefore
  · rintro (⟨rfl, hs, hbefore⟩ | ⟨u, v, rfl, hv, hbefore⟩)
    · exact ⟨[], s, rfl, hs, hbefore⟩
    · refine ⟨c :: u, v, rfl, hv, ?_⟩
      rwa [List.reverse_cons, List.append_assoc]

lemma lowercaseFrom_sigma (before rest : List Char) :
    lowercaseFrom before ('Σ' :: rest)
      = (if (meetsCased before && !meetsCased rest) = true then 'ς' else 'σ')
        :: lowercaseFrom ('Σ' :: before) rest := by
  rw [lowercaseFrom]
  simp only [beq_self_eq_true, if_true]
  split <;> rfl

/-- **In front of a letter a text has the same small form, unless it ends in a capital sigma**: one
character of the small form is another then. -/
lemma exists_lowercaseFrom_append (before s : List Char) {t : List Char}
    (ht : meetsCased t = true) :
    ∃ small, lowercaseFrom before (s ++ t) = small ++ lowercaseFrom (s.reverse ++ before) t
      ∧ small.length = (lowercaseFrom before s).length
      ∧ (small = lowercaseFrom before s ↔ ¬EndsInSigma before s) := by
  induction s generalizing before with
  | nil => exact ⟨[], rfl, rfl, by simp [EndsInSigma, lowercaseFrom]⟩
  | cons c s ih =>
      obtain ⟨small, happend, hlength, hsame⟩ := ih (c :: before)
      have hrest : lowercaseFrom (c :: before) (s ++ t)
          = small ++ lowercaseFrom ((c :: s).reverse ++ before) t := by
        rw [happend, List.reverse_cons, List.append_assoc]
        rfl
      rw [endsInSigma_cons, not_or, ← hsame]
      by_cases hsigma : c = 'Σ'
      · subst hsigma
        have hmeets := meetsCased_append s t
        have halone := meetsCased_append s []
        rw [ht] at hmeets
        rw [List.append_nil] at halone
        rw [List.cons_append, lowercaseFrom_sigma, lowercaseFrom_sigma, hrest, hmeets]
        refine ⟨_ :: small, rfl, by rw [List.length_cons, List.length_cons, hlength], ?_⟩
        rw [List.cons.injEq]
        cases hall : s.all isCaseIgnorable with
        | false => simp
        | true =>
            rw [hall, if_pos rfl, meetsCased_nil] at halone
            cases hbefore : meetsCased before <;> simp [halone]
      · have hne : ¬(c == 'Σ') = true := by simpa using hsigma
        simp only [List.cons_append, lowercaseFrom, if_neg hne, hrest]
        refine ⟨lowerChar c ++ small, by rw [List.append_assoc], ?_, ?_⟩
        · rw [List.length_append, List.length_append, hlength]
        · rw [List.append_cancel_left_eq]
          exact ⟨fun h => ⟨fun hc => hsigma hc.1, h⟩, fun h => h.2⟩

end ChatCommand.Text

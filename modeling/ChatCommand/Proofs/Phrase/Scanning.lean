/-
How an input is read word by word.

* `Extends`, `IsSignAt`: the next character is read into a word, or signs are a word of their own;
* `readWords_blank`, `readWords_extends`, `readWords_sign`, `readWords_quotation`: what is read;
* `readWords_induction`: **every input is read by these steps**;
* `splitMeridiem?_eq_some`, `closeWord_cases`: what a finished word contributes;
* `ne_nil_of_mem_readWords`: no word is empty.
-/
import ChatCommand.Phrase.Words
import ChatCommand.Proofs.Text.Lowercase

namespace ChatCommand

open Text (isBlank lowercaseChars)

variable {word rest sign content : List Char} {c : Char}

/-! ### Steps -/

lemma isMark_iff : isMark c = true ↔
    c = '(' ∨ c = ')' ∨ c = ',' ∨ c = '?' ∨ c = '+' ∨ c = '*' ∨ c = '/' ∨ c = '^' := by
  simp [isMark]

lemma isComparison_iff : isComparison c = true ↔ c = '<' ∨ c = '>' ∨ c = '=' ∨ c = '!' := by
  simp [isComparison]

/-- A character that is part of a word wherever it stands. -/
def isOrdinary (c : Char) : Bool :=
  c != '"' && !isBlank c && c != '.' && c != ':' && !isMark c && !isComparison c

/-- The next character is read into the word: it is an ordinary one, or a point or colon between
digits. -/
def Extends (word : List Char) (c : Char) (rest : List Char) : Prop :=
  isOrdinary c = true ∨ (c = '.' ∨ c = ':') ∧ isBetweenDigits word rest = true

/-- Signs that are a word of their own before `rest`, and end the word being read. -/
inductive IsSignAt (word rest : List Char) : List Char → Prop
  | point {c : Char} (hc : c = '.' ∨ c = ':') (h : isBetweenDigits word rest = false) :
      IsSignAt word rest [c]
  | mark {c : Char} (h : isMark c = true) : IsSignAt word rest [c]
  | comparison {c : Char} (h : isComparison c = true) (hrest : rest.head? ≠ some '=') :
      IsSignAt word rest [c]
  | equals {c : Char} (h : isComparison c = true) : IsSignAt word rest [c, '=']

/-- All signs. -/
def signs : List (List Char) :=
  [".", ":", "(", ")", ",", "?", "+", "*", "/", "^", "<", ">", "=", "!", "<=", ">=", "==",
    "!="].map String.toList

lemma IsSignAt.mem_signs (h : IsSignAt word rest sign) : sign ∈ signs := by
  cases h with
  | point hc => rcases hc with rfl | rfl <;> decide +kernel
  | mark h =>
      rcases isMark_iff.mp h with rfl | rfl | rfl | rfl | rfl | rfl | rfl | rfl <;> decide +kernel
  | comparison h | equals h =>
      rcases isComparison_iff.mp h with rfl | rfl | rfl | rfl <;> decide +kernel

lemma IsSignAt.ne_nil (h : IsSignAt word rest sign) : sign ≠ [] := by
  cases h <;> exact List.cons_ne_nil _ _

/-- The next character is a quote, white space, part of the word, or part of signs. -/
lemma next_cases (word rest : List Char) (c : Char) :
    c = '"' ∨ isBlank c = true ∨ Extends word c rest
      ∨ ∃ sign behind, c :: rest = sign ++ behind ∧ IsSignAt word behind sign := by
  by_cases hquote : c = '"'
  · exact .inl hquote
  by_cases hblank : isBlank c = true
  · exact .inr (.inl hblank)
  by_cases hpoint : c = '.' ∨ c = ':'
  · cases hdigits : isBetweenDigits word rest with
    | true => exact .inr (.inr (.inl (.inr ⟨hpoint, hdigits⟩)))
    | false => exact .inr (.inr (.inr ⟨[c], rest, rfl, .point hpoint hdigits⟩))
  by_cases hmark : isMark c = true
  · exact .inr (.inr (.inr ⟨[c], rest, rfl, .mark hmark⟩))
  by_cases hcomparison : isComparison c = true
  · by_cases hequals : rest.head? = some '='
    · obtain ⟨behind, rfl⟩ := List.head?_eq_some_iff.mp hequals
      exact .inr (.inr (.inr ⟨[c, '='], behind, rfl, .equals hcomparison⟩))
    · exact .inr (.inr (.inr ⟨[c], rest, rfl, .comparison hcomparison hequals⟩))
  · refine .inr (.inr (.inl (.inl ?_)))
    simp_all [isOrdinary]

lemma readWords_blank (h : isBlank c = true) (word rest : List Char) :
    readWords word (c :: rest) = closeWord word ++ readWords [] rest := by
  have hquote : ¬(c == '"') = true := by
    intro hc
    rw [eq_of_beq hc] at h
    contradiction
  rw [readWords_cons, if_neg hquote, if_pos h]

lemma readWords_extends (h : Extends word c rest) :
    readWords word (c :: rest) = readWords (c :: word) rest := by
  rcases h with h | ⟨rfl | rfl, h⟩
  · simp only [isOrdinary, Bool.and_eq_true, bne_iff_ne, Bool.not_eq_true'] at h
    rw [readWords_cons]
    simp [h]
  · rw [readWords_cons]
    exact if_pos h
  · rw [readWords_cons]
    exact if_pos h

lemma readWords_sign (h : IsSignAt word rest sign) :
    readWords word (sign ++ rest) = closeWord word ++ sign :: readWords [] rest := by
  cases h with
  | point hc h =>
      rcases hc with rfl | rfl <;> rw [List.singleton_append, readWords_cons] <;>
        exact if_neg (Bool.eq_false_iff.mp h)
  | mark h =>
      rw [List.singleton_append, readWords_cons]
      rcases isMark_iff.mp h with rfl | rfl | rfl | rfl | rfl | rfl | rfl | rfl <;> rfl
  | comparison h hrest =>
      rw [List.singleton_append, readWords_cons]
      cases rest with
      | nil => rcases isComparison_iff.mp h with rfl | rfl | rfl | rfl <;> rfl
      | cons d behind =>
          have hd : ¬(d == '=') = true := by simpa using hrest
          rcases isComparison_iff.mp h with rfl | rfl | rfl | rfl <;> exact if_neg hd
  | equals h =>
      rw [List.cons_append, List.singleton_append, readWords_cons]
      rcases isComparison_iff.mp h with rfl | rfl | rfl | rfl <;> rfl

/-- A quotation is read up to the next quote. -/
lemma readQuoted_append (quotation : List Char) (h : '"' ∉ content) (rest : List Char) :
    readQuoted quotation (content ++ '"' :: rest)
      = (quotation.reverse ++ content ++ ['"']) :: readWords [] rest := by
  induction content generalizing quotation with
  | nil =>
      rw [List.nil_append, readQuoted_cons, List.append_nil]
      exact congrArg (· :: _) (List.reverse_cons ..)
  | cons c content ih =>
      obtain ⟨hc, hcontent⟩ := List.ne_and_not_mem_of_not_mem_cons h
      rw [List.cons_append, readQuoted_cons, if_neg (by simpa using Ne.symm hc), ih _ hcontent]
      simp

/-- A quotation without end is read up to the end of the input. -/
lemma readQuoted_of_not_mem (quotation : List Char) (h : '"' ∉ content) :
    readQuoted quotation content = [quotation.reverse ++ content ++ ['"']] := by
  induction content generalizing quotation with
  | nil =>
      rw [readQuoted_nil, List.append_nil]
      exact congrArg (· :: _) (List.reverse_cons ..)
  | cons c content ih =>
      obtain ⟨hc, hcontent⟩ := List.ne_and_not_mem_of_not_mem_cons h
      rw [readQuoted_cons, if_neg (by simpa using Ne.symm hc), ih _ hcontent]
      simp

/-- A text in quotes. -/
def inQuotes (content : List Char) : List Char := '"' :: (content ++ ['"'])

lemma readWords_quotation (h : '"' ∉ content) (word rest : List Char) :
    readWords word ('"' :: (content ++ '"' :: rest))
      = closeWord word ++ inQuotes content :: readWords [] rest := by
  rw [readWords_cons]
  exact congrArg (closeWord word ++ ·) (readQuoted_append ['"'] h rest)

lemma readWords_openQuotation (h : '"' ∉ content) (word : List Char) :
    readWords word ('"' :: content) = closeWord word ++ [inQuotes content] := by
  rw [readWords_cons]
  exact congrArg (closeWord word ++ ·) (readQuoted_of_not_mem ['"'] h)

/-- **Every input is read step by step.** What holds at the end of the input and is passed on by
each step holds of all words that are read, whatever has been read of the first. -/
theorem readWords_induction {motive : List Char → List Char → List (List Char) → Prop}
    (nothing : ∀ word, motive word [] (closeWord word))
    (blank : ∀ word c rest words, isBlank c = true → motive [] rest words →
      motive word (c :: rest) (closeWord word ++ words))
    (extend : ∀ word c rest words, Extends word c rest → motive (c :: word) rest words →
      motive word (c :: rest) words)
    (sign : ∀ word sign rest words, IsSignAt word rest sign → motive [] rest words →
      motive word (sign ++ rest) (closeWord word ++ sign :: words))
    (quotation : ∀ word content rest words, '"' ∉ content → motive [] rest words →
      motive word ('"' :: (content ++ '"' :: rest)) (closeWord word ++ inQuotes content :: words))
    (openQuotation : ∀ word content, '"' ∉ content →
      motive word ('"' :: content) (closeWord word ++ [inQuotes content]))
    (word s : List Char) : motive word s (readWords word s) := by
  induction hlength : s.length using Nat.strongRecOn generalizing word s with
  | ind n ih =>
      subst hlength
      cases s with
      | nil => exact nothing word
      | cons c rest =>
          rcases next_cases word rest c with rfl | hblank | hextends | ⟨sign', behind, hsplit, hsign⟩
          · by_cases hquote : '"' ∈ rest
            · obtain ⟨content, behind, rfl, hcontent⟩ := List.eq_append_cons_of_mem hquote
              rw [readWords_quotation hcontent]
              exact quotation word content behind _ hcontent (ih _ (by simp; omega) [] behind rfl)
            · rw [readWords_openQuotation hquote]
              exact openQuotation word rest hquote
          · rw [readWords_blank hblank]
            exact blank word c rest _ hblank (ih _ (by simp) [] rest rfl)
          · rw [readWords_extends hextends]
            exact extend word c rest _ hextends (ih _ (by simp) (c :: word) rest rfl)
          · rw [hsplit, readWords_sign hsign]
            refine sign word sign' behind _ hsign (ih _ ?_ [] behind rfl)
            have hpos := List.length_pos_of_ne_nil hsign.ne_nil
            rw [hsplit, List.length_append]
            omega

/-! ### Finished words -/

/-- What stands before the half of the day are digits and colons. -/
lemma splitMeridiem?_eq_some {w time half : List Char} (h : splitMeridiem? w = some (time, half)) :
    w = time ++ half ∧ time ≠ [] ∧ (∀ c ∈ time, c.isDigit = true ∨ c = ':')
      ∧ (half = ['a', 'm'] ∨ half = ['p', 'm']) := by
  unfold splitMeridiem? at h
  split at h
  · next mark digits hw =>
      simp only [Option.ite_none_right_eq_some, Option.some.injEq, Prod.mk.injEq,
        Bool.and_eq_true, Bool.or_eq_true, Bool.not_eq_true', List.isEmpty_eq_false_iff,
        List.all_eq_true, beq_iff_eq] at h
      obtain ⟨⟨⟨⟨hmark, hne⟩, -⟩, hdigits⟩, rfl, rfl⟩ := h
      refine ⟨?_, by simpa using hne, fun c hc => hdigits c (List.mem_reverse.mp hc), ?_⟩
      · rw [← List.reverse_reverse w, hw]
        simp
      · rcases hmark with rfl | rfl
        · exact .inl rfl
        · exact .inr rfl
  · contradiction

/-- A finished word contributes its small form, or a clock time and a half of the day that are the
small form together. -/
lemma closeWord_cases (h : word ≠ []) :
    (closeWord word = [lowercaseChars word.reverse]
        ∧ splitMeridiem? (lowercaseChars word.reverse) = none)
      ∨ ∃ time half, closeWord word = [time, half]
        ∧ splitMeridiem? (lowercaseChars word.reverse) = some (time, half) := by
  rw [closeWord, if_neg (by simpa using h)]
  dsimp only
  cases splitMeridiem? (lowercaseChars word.reverse) with
  | none => exact .inl ⟨rfl, rfl⟩
  | some both => exact .inr ⟨both.1, both.2, rfl, rfl⟩

lemma ne_nil_of_mem_closeWord {w : List Char} (h : w ∈ closeWord word) : w ≠ [] := by
  have hword : word ≠ [] := by
    rintro rfl
    contradiction
  rcases closeWord_cases hword with ⟨hclose, -⟩ | ⟨time, half, hclose, hsplit⟩
  · rw [hclose] at h
    rw [List.mem_singleton.mp h]
    exact Text.lowercaseChars_ne_nil (by simpa using hword)
  · obtain ⟨-, htime, -, hhalf⟩ := splitMeridiem?_eq_some hsplit
    rw [hclose, List.mem_cons, List.mem_singleton] at h
    rcases h with rfl | rfl
    · exact htime
    · rcases hhalf with rfl | rfl <;> simp

/-- **No word of an input is empty.** -/
theorem ne_nil_of_mem_readWords (word s : List Char) : ∀ w ∈ readWords word s, w ≠ [] := by
  have hclose (word : List Char) : ∀ w ∈ closeWord word, w ≠ [] := fun _ => ne_nil_of_mem_closeWord
  refine readWords_induction (motive := fun _ _ words => ∀ w ∈ words, w ≠ [])
    hclose (fun word c rest words _ ih => ?_) (fun _ _ _ _ _ ih => ih)
    (fun word sign rest words hsign ih => ?_) (fun word content rest words _ ih => ?_)
    (fun word content _ => ?_) word s
  · exact List.forall_mem_append.mpr ⟨hclose word, ih⟩
  · exact List.forall_mem_append.mpr ⟨hclose word, List.forall_mem_cons.mpr ⟨hsign.ne_nil, ih⟩⟩
  · exact List.forall_mem_append.mpr
      ⟨hclose word, List.forall_mem_cons.mpr ⟨List.cons_ne_nil _ _, ih⟩⟩
  · exact List.forall_mem_append.mpr
      ⟨hclose word, List.forall_mem_singleton.mpr (List.cons_ne_nil _ _)⟩

end ChatCommand

/-
Words that are put together again.

The words of an input, put together with single spaces, are read as the same words. Each boundary
between words is found again at the space, and within a word no boundary is found: its points and
colons still stand between digits, and its letters are small already.

* `IsReadBefore`: what has been read of a word, with what follows;
* `IsReadBefore.lower`: small forms are read where their characters are;
* `IsWord`: a text that is read as one word;
* `isWord_of_mem_readWords`: every word of an input is such a text;
* `readWords_intercalate`: such texts with spaces between them are the words that are read;
* `splitWords_rejoin`: **splitting an input, joining the words and splitting again leads to the same
  words**.
-/
import ChatCommand.Proofs.Phrase.Scanning

namespace ChatCommand

open Text (isBlank lowercaseChars IsSmallForm isSmallLetter)

variable {word word' rest rest' w : List Char} {c d : Char}

/-! ### Ordinary characters -/

lemma ascii_of_isDigit (h : c.isDigit = true) : c.toNat < 0x80 := by
  simp only [Char.isDigit, Bool.and_eq_true, decide_eq_true_eq] at h
  exact Nat.lt_of_le_of_lt h.2 (by decide)

/-- Digits are ordinary, so that quotes, white space and signs are none. -/
lemma isOrdinary_of_isDigit (h : c.isDigit = true) : isOrdinary c = true :=
  Text.forall_ascii (p := fun c => c.isDigit = true → isOrdinary c = true) (by decide +kernel)
    (ascii_of_isDigit h) h

lemma isDigit_eq_false (h : isOrdinary c = false) : c.isDigit = false :=
  Bool.eq_false_iff.mpr fun hdigit => by
    rw [isOrdinary_of_isDigit hdigit] at h
    contradiction

/-- Beyond ASCII all that is no white space is ordinary. -/
lemma isOrdinary_of_beyond (h : 0x80 ≤ c.toNat) (hblank : isBlank c = false) :
    isOrdinary c = true := by
  have hne (chars : List Char) (hchars : chars.all (·.toNat < 0x80) = true) : c ∉ chars :=
    fun hc => absurd (of_decide_eq_true (List.all_eq_true.mp hchars c hc)) (Nat.not_lt.mpr h)
  have hother := hne ['"', '.', ':', '(', ')', ',', '?', '+', '*', '/', '^', '<', '>', '=', '!']
    (by decide)
  clear hne
  simp_all [isOrdinary, isMark, isComparison]

/-- A letter that is its own small form is ordinary, and no digit. -/
lemma isOrdinary_of_isSmallLetter (h : isSmallLetter c = true) :
    isOrdinary c = true ∧ c.isDigit = false := by
  simp only [isSmallLetter, Bool.and_eq_true, Bool.or_eq_true, decide_eq_true_eq,
    Bool.not_eq_true'] at h
  obtain ⟨⟨-, hblank⟩, hlower | hbeyond⟩ := h
  · exact Text.forall_ascii
      (p := fun c => c.isLower = true → isOrdinary c = true ∧ c.isDigit = false)
      (by decide +kernel) (Text.ascii_of_isLower hlower) hlower
  · exact ⟨isOrdinary_of_beyond hbeyond hblank,
      Bool.eq_false_iff.mpr fun hdigit => absurd (ascii_of_isDigit hdigit) (Nat.not_lt.mpr hbeyond)⟩

/-- Signs are no digits. -/
lemma IsSignAt.isDigit_head? {sign : List Char} (h : IsSignAt word rest sign)
    (behind : List Char) : (sign ++ behind).head?.any Char.isDigit = false := by
  have hsigns : ∀ sign ∈ signs, sign.head?.any Char.isDigit = false := by decide +kernel
  rw [List.head?_append_of_ne_nil _ h.ne_nil]
  exact hsigns sign h.mem_signs

/-- A digit is its own small form. -/
lemma eq_of_isSmallForm {small : List Char} (h : IsSmallForm c small) (hc : c.isDigit = true) :
    small = [c] := by
  cases h with
  | same => rfl
  | letters hupper =>
      rcases hupper with hupper | hbeyond
      · have hnone : c.isUpper = true → c.isDigit = false :=
          Text.forall_ascii (p := fun c => c.isUpper = true → c.isDigit = false) (by decide +kernel)
            (ascii_of_isDigit hc)
        rw [hnone hupper] at hc
        contradiction
      · exact absurd (ascii_of_isDigit hc) (Nat.not_lt.mpr hbeyond)

/-! ### Reading a word again -/

/-- What has been read of a word, in reverse, was part of it before `rest`. -/
inductive IsReadBefore : List Char → List Char → Prop
  | nil (rest : List Char) : IsReadBefore [] rest
  | cons {word rest : List Char} {c : Char} (hc : Extends word c rest)
      (h : IsReadBefore word (c :: rest)) : IsReadBefore (c :: word) rest

lemma Extends.congr (h : Extends word c rest)
    (hword : word.head?.any Char.isDigit = true → word'.head?.any Char.isDigit = true)
    (hrest : rest'.head?.any Char.isDigit = rest.head?.any Char.isDigit) :
    Extends word' c rest' := by
  refine h.imp_right fun ⟨hc, hdigits⟩ => ⟨hc, ?_⟩
  rw [isBetweenDigits, Bool.and_eq_true] at hdigits ⊢
  exact ⟨hword hdigits.1, hrest.trans hdigits.2⟩

namespace IsReadBefore

/-- A word is read when its characters come once more. -/
lemma readWords_append (h : IsReadBefore word rest) :
    readWords [] (word.reverse ++ rest) = readWords word rest := by
  induction h with
  | nil rest => rfl
  | cons hc _ ih =>
      rw [List.reverse_cons, List.append_assoc, List.singleton_append, ih, readWords_extends hc]

/-- It matters for a word whether a digit follows, and nothing else. -/
lemma congr (h : IsReadBefore word rest)
    (hrest : rest'.head?.any Char.isDigit = rest.head?.any Char.isDigit) :
    IsReadBefore word rest' := by
  induction h generalizing rest' with
  | nil => exact .nil rest'
  | cons hc _ ih => exact .cons (hc.congr id hrest) (ih rfl)

/-- A word is complete where no digit follows. -/
lemma complete (h : IsReadBefore word rest) (hrest : rest.head?.any Char.isDigit = false) :
    IsReadBefore word [] :=
  h.congr hrest.symm

/-- Ordinary characters are read behind whatever has been read. -/
lemma append {chars : List Char} (h : IsReadBefore word (chars ++ rest))
    (hchars : ∀ c ∈ chars, isOrdinary c = true) : IsReadBefore (chars.reverse ++ word) rest := by
  induction chars generalizing word with
  | nil => exact h
  | cons c chars ih =>
      obtain ⟨hc, hchars⟩ := List.forall_mem_cons.mp hchars
      rw [List.reverse_cons, List.append_assoc]
      exact ih (.cons (.inl hc) h) hchars

/-- **Small forms are read where their characters are.** -/
lemma lower (h : IsReadBefore word rest) {pieces : List (List Char)}
    (hpieces : List.Forall₂ IsSmallForm word pieces) :
    IsReadBefore (pieces.map List.reverse).flatten rest := by
  induction h generalizing pieces with
  | nil rest =>
      cases hpieces
      exact .nil rest
  | @cons word rest c hc _ ih =>
      obtain _ | ⟨hform, hpieces⟩ := hpieces
      rename_i small pieces
      have hread := ih hpieces
      cases hform with
      | same =>
          refine .cons (hc.congr (fun hdigit => ?_) rfl) hread
          -- A digit before a point is still there.
          cases hpieces with
          | nil => exact hdigit
          | cons hform _ =>
              rw [eq_of_isSmallForm hform hdigit]
              exact hdigit
      | letters hupper hne hsmall =>
          have hletter (d : Char) (hd : d ∈ small) := isOrdinary_of_isSmallLetter (hsmall d hd)
          have hc : c.isDigit = false := Bool.eq_false_iff.mpr fun hdigit => by
            obtain rfl := eq_of_isSmallForm (.letters hupper hne hsmall) hdigit
            rw [(hletter c (by simp)).2] at hdigit
            contradiction
          refine append (hread.congr ?_) fun d hd => (hletter d hd).1
          obtain ⟨d, others, rfl⟩ := List.exists_cons_of_ne_nil hne
          exact (hletter d (by simp)).2.trans hc.symm

/-- The small form of a complete word is complete. -/
lemma lowercase (h : IsReadBefore word []) :
    IsReadBefore (lowercaseChars word.reverse).reverse [] := by
  obtain ⟨pieces, hpieces, hlower⟩ := Text.exists_lowercaseChars word.reverse
  have hreversed : List.Forall₂ IsSmallForm word pieces.reverse := by
    rwa [← List.forall₂_reverse_iff, List.reverse_reverse]
  have hread := h.lower hreversed
  rwa [List.map_reverse, ← List.reverse_flatten, ← hlower] at hread

end IsReadBefore

/-! ### Texts that are one word -/

/-- A text that is read as one word: small letters and other ordinary characters with points and
colons between digits, and no clock time before a half of the day; signs; or a quotation. -/
inductive IsWord : List Char → Prop
  | plain {w : List Char} (hne : w ≠ []) (hread : IsReadBefore w.reverse [])
      (hsmall : lowercaseChars w = w) (hwhole : splitMeridiem? w = none) : IsWord w
  | sign {word rest sign : List Char} (h : IsSignAt word rest sign) : IsWord sign
  | quotation {content : List Char} (h : '"' ∉ content) : IsWord (inQuotes content)

/-- A clock time without a half of the day has none to lose. -/
lemma splitMeridiem?_eq_none {time : List Char} (h : ∀ c ∈ time, c.isDigit = true ∨ c = ':') :
    splitMeridiem? time = none := by
  by_contra hne
  obtain ⟨⟨digits, half⟩, hsplit⟩ := Option.ne_none_iff_exists'.mp hne
  obtain ⟨rfl, -, -, hhalf⟩ := splitMeridiem?_eq_some hsplit
  have hm : 'm' ∈ digits ++ half := by rcases hhalf with rfl | rfl <;> simp
  have hclock := h 'm' hm
  simp at hclock

lemma isWord_half {half : List Char} (h : half = ['a', 'm'] ∨ half = ['p', 'm']) :
    IsWord half := by
  rcases h with rfl | rfl
  all_goals
    refine .plain (by simp) (.cons (.inl ?_) (.cons (.inl ?_) (.nil _))) ?_ ?_ <;> decide +kernel

/-- A finished word contributes such texts. -/
lemma isWord_of_mem_closeWord (h : IsReadBefore word []) : ∀ w ∈ closeWord word, IsWord w := by
  by_cases hword : word = []
  · subst hword
    exact fun w hw => absurd hw List.not_mem_nil
  have hne : lowercaseChars word.reverse ≠ [] := Text.lowercaseChars_ne_nil (by simpa using hword)
  have hread := h.lowercase
  have hsettled := Text.settled_of_mem_lowercaseChars (s := word.reverse)
  rcases closeWord_cases hword with ⟨hclose, hwhole⟩ | ⟨time, half, hclose, hsplit⟩
  · rw [hclose, List.forall_mem_singleton]
    exact .plain hne hread (Text.lowercaseChars_lowercaseChars _) hwhole
  · obtain ⟨hboth, htime, hclock, hhalf⟩ := splitMeridiem?_eq_some hsplit
    rw [hboth] at hread hsettled
    have htimeRead : IsReadBefore time.reverse [] := by
      rcases hhalf with rfl | rfl
      all_goals
        rw [List.reverse_append] at hread
        obtain _ | ⟨-, _ | ⟨-, hread⟩⟩ := hread
        exact hread.complete (by decide)
    have htimeSmall : lowercaseChars time = time :=
      Text.lowercaseChars_eq_self fun c hc => hsettled c (List.mem_append_left _ hc)
    rw [hclose, List.forall_mem_cons, List.forall_mem_singleton]
    exact ⟨.plain htime htimeRead htimeSmall (splitMeridiem?_eq_none hclock), isWord_half hhalf⟩

/-- **Every word of an input is such a text.** -/
theorem isWord_of_mem_readWords {s : List Char} (h : IsReadBefore word s) :
    ∀ w ∈ readWords word s, IsWord w := by
  refine readWords_induction
    (motive := fun word s words => IsReadBefore word s → ∀ w ∈ words, IsWord w)
    (fun word h => isWord_of_mem_closeWord h) (fun word c rest words hblank ih h => ?_)
    (fun word c rest words hextends ih h => ih (.cons hextends h))
    (fun word sign rest words hsign ih h => ?_)
    (fun word content rest words hcontent ih h => ?_) (fun word content hcontent h => ?_) word s h
  · have hdigit : c.isDigit = false := isDigit_eq_false (by simp [isOrdinary, hblank])
    have hclose := isWord_of_mem_closeWord (h.complete hdigit)
    exact List.forall_mem_append.mpr ⟨hclose, ih (.nil _)⟩
  · have hclose := isWord_of_mem_closeWord (h.complete (hsign.isDigit_head? rest))
    exact List.forall_mem_append.mpr
      ⟨hclose, List.forall_mem_cons.mpr ⟨.sign hsign, ih (.nil _)⟩⟩
  · have hclose := isWord_of_mem_closeWord (h.complete rfl)
    exact List.forall_mem_append.mpr
      ⟨hclose, List.forall_mem_cons.mpr ⟨.quotation hcontent, ih (.nil _)⟩⟩
  · have hclose := isWord_of_mem_closeWord (h.complete rfl)
    exact List.forall_mem_append.mpr
      ⟨hclose, List.forall_mem_singleton.mpr (.quotation hcontent)⟩

/-! ### Reading words again -/

/-- A finished word without a half of the day behind it, in small letters, is the word itself. -/
lemma closeWord_reverse (hne : w ≠ []) (hsmall : lowercaseChars w = w)
    (hwhole : splitMeridiem? w = none) : closeWord w.reverse = [w] := by
  have hreversed : w.reverse ≠ [] := by simpa using hne
  rcases closeWord_cases hreversed with ⟨hclose, -⟩ | ⟨time, half, -, hsplit⟩
  · rw [hclose, List.reverse_reverse, hsmall]
  · rw [List.reverse_reverse, hsmall, hwhole] at hsplit
    contradiction

/-- What has been read of a word is finished before a space or the end. -/
lemma readWords_before_blank (word : List Char) (hrest : ∀ c ∈ rest.head?, c = ' ') :
    readWords word rest = closeWord word ++ readWords [] rest := by
  cases rest with
  | nil => exact (List.append_nil _).symm
  | cons c rest =>
      have hblank : isBlank c = true := by
        rw [hrest c rfl]
        rfl
      rw [readWords_blank hblank, readWords_blank hblank]
      rfl

/-- Signs are read before a space or the end, whatever stood behind them. -/
lemma IsSignAt.before_blank (h : IsSignAt word rest' w) (hrest : ∀ c ∈ rest.head?, c = ' ') :
    IsSignAt [] rest w := by
  cases h with
  | point hc => exact .point hc rfl
  | mark hc => exact .mark hc
  | comparison hc =>
      refine .comparison hc fun hequals => ?_
      have := hrest _ hequals
      contradiction
  | equals hc => exact .equals hc

/-- A text that is read as one word is read so before a space or the end. -/
lemma IsWord.readWords_append (h : IsWord w) (hrest : ∀ c ∈ rest.head?, c = ' ') :
    readWords [] (w ++ rest) = w :: readWords [] rest := by
  cases h with
  | plain hne hread hsmall hwhole =>
      have hnext : rest.head?.any Char.isDigit = false := by
        cases rest with
        | nil => rfl
        | cons c rest =>
            rw [hrest c rfl]
            rfl
      have hagain := (hread.congr hnext).readWords_append
      rw [List.reverse_reverse] at hagain
      rw [hagain, readWords_before_blank _ hrest, closeWord_reverse hne hsmall hwhole]
      rfl
  | sign h => exact readWords_sign (h.before_blank hrest)
  | quotation h =>
      rw [inQuotes, List.cons_append, List.append_assoc, List.singleton_append,
        readWords_quotation h]
      rfl

/-- **Texts that are read as one word each, with single spaces between them, are the words that are
read.** -/
theorem readWords_intercalate {words : List (List Char)} (h : ∀ w ∈ words, IsWord w) :
    readWords [] ([' '].intercalate words) = words := by
  induction words with
  | nil => rfl
  | cons w words ih =>
      obtain ⟨hw, hwords⟩ := List.forall_mem_cons.mp h
      cases words with
      | nil =>
          have hread : readWords [] (w ++ []) = w :: readWords [] [] :=
            hw.readWords_append (by simp)
          rw [List.append_nil] at hread
          rw [List.intercalate_singleton]
          exact hread
      | cons v words =>
          rw [List.intercalate_cons_cons, List.append_assoc, hw.readWords_append (by simp),
            List.singleton_append, readWords_blank (by decide), ih hwords]
          rfl

/-- **Splitting an input, joining the words with single spaces and splitting again leads to the same
words**, whatever the input. -/
theorem splitWords_rejoin (input : String) :
    splitWords (" ".intercalate (splitWords input)) = splitWords input := by
  have hwords : ∀ w ∈ readWords [] input.toList, IsWord w := isWord_of_mem_readWords (.nil _)
  have hchars : (" ".intercalate (splitWords input)).toList
      = [' '].intercalate (readWords [] input.toList) := by
    have hid : String.toList ∘ String.ofList = id := funext fun _ => String.toList_ofList
    rw [String.toList_intercalate, splitWords, List.map_map, hid, List.map_id]
    rfl
  rw [splitWords, hchars, readWords_intercalate hwords]
  rfl

end ChatCommand

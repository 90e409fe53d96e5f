/-
What words hold of their input.

An input is cut at its quotes into text and quotations by turns. Its words, one after the other, are
the text in small letters without white space and the quotations in their quotes.

* `cut`, `outside`, `quotations`: the pieces of an input, its text and its quotations;
* `restored`: what the words of an input must hold;
* `closeWord_contents`: a finished word contributes its small letters;
* `IsContents`: words that hold what they must, with a lemma for each step of reading;
* `readWords_contents`: what is read of an input, behind what has been read of a word;
* `splitWords_contents`: **words lose and add nothing**.
-/
import Mathlib.Data.List.Basic
import ChatCommand.Proofs.Phrase.Scanning

namespace ChatCommand

open Text (isBlank lowercaseChars)

variable {word rest sign content : List Char} {c : Char}

/-! ### Pieces of an input -/

/-- An input, cut at its quotes: text and quotations by turns. -/
def cut (s : List Char) : List (List Char) := s.splitOn '"'

/-- The text, where pieces are text and quotations by turns. -/
def outside : List (List Char) → List Char
  | [] => []
  | [piece] => piece
  | piece :: _ :: pieces => piece ++ outside pieces

/-- The quotations, the last of which may be without end. -/
def quotations : List (List Char) → List (List Char)
  | _ :: quotation :: pieces => quotation :: quotations pieces
  | _ => []

/-- A text in small letters without its white space. -/
def compact (s : List Char) : List Char := (s.filter (!isBlank ·)).map Char.toLower

/-- What words must hold: the text in small letters without white space, and the quotations as they
are, each with both of its quotes. -/
def restored : List (List Char) → List Char
  | [] => []
  | [piece] => compact piece
  | piece :: quotation :: pieces => compact piece ++ inQuotes quotation ++ restored pieces

lemma compact_append (a b : List Char) : compact (a ++ b) = compact a ++ compact b := by
  rw [compact, List.filter_append, List.map_append]
  rfl

/-- Characters that are no quotes belong to the first piece. -/
lemma exists_cut_append {chars : List Char} (h : '"' ∉ chars) (s : List Char) :
    ∃ piece pieces, cut s = piece :: pieces ∧ cut (chars ++ s) = (chars ++ piece) :: pieces := by
  induction chars with
  | nil =>
      obtain ⟨piece, pieces, hcut⟩ := List.exists_cons_of_ne_nil (List.splitOn_ne_nil '"' s)
      exact ⟨piece, pieces, hcut, hcut⟩
  | cons c chars ih =>
      obtain ⟨hc, hchars⟩ := List.ne_and_not_mem_of_not_mem_cons h
      obtain ⟨piece, pieces, hcut, happend⟩ := ih hchars
      refine ⟨piece, pieces, hcut, ?_⟩
      rw [cut] at happend ⊢
      rw [List.cons_append, List.splitOn_cons_eq_if_modifyHead, if_neg (by simpa using Ne.symm hc),
        happend]
      rfl

lemma outside_cut_append {chars : List Char} (h : '"' ∉ chars) (s : List Char) :
    outside (cut (chars ++ s)) = chars ++ outside (cut s) := by
  obtain ⟨piece, pieces, hcut, happend⟩ := exists_cut_append h s
  rw [hcut, happend]
  cases pieces <;> simp [outside]

lemma quotations_cut_append {chars : List Char} (h : '"' ∉ chars) (s : List Char) :
    quotations (cut (chars ++ s)) = quotations (cut s) := by
  obtain ⟨piece, pieces, hcut, happend⟩ := exists_cut_append h s
  rw [hcut, happend]
  cases pieces <;> rfl

lemma restored_cut_append {chars : List Char} (h : '"' ∉ chars) (s : List Char) :
    restored (cut (chars ++ s)) = compact chars ++ restored (cut s) := by
  obtain ⟨piece, pieces, hcut, happend⟩ := exists_cut_append h s
  rw [hcut, happend]
  cases pieces <;> simp [restored, compact_append]

lemma cut_quotation (h : '"' ∉ content) (rest : List Char) :
    cut ('"' :: (content ++ '"' :: rest)) = [] :: content :: cut rest := by
  have hopen := List.splitOn_append_cons_self_of_not_mem (List.not_mem_nil : '"' ∉ [])
    (content ++ '"' :: rest)
  rwa [List.splitOn_append_cons_self_of_not_mem h rest] at hopen

lemma cut_openQuotation (h : '"' ∉ content) : cut ('"' :: content) = [[], content] := by
  have hopen := List.splitOn_append_cons_self_of_not_mem (List.not_mem_nil : '"' ∉ [])
    content
  rwa [List.splitOn_eq_singleton h] at hopen

/-! ### Characters -/

/-- An ASCII character that is neither white space nor a capital. -/
def isPlain (c : Char) : Bool := c.toNat < 0x80 && !isBlank c && !c.isUpper

lemma isPlain_toLower (hascii : c.toNat < 0x80) (hblank : isBlank c = false) :
    isPlain c.toLower = true :=
  Text.forall_ascii (p := fun c => isBlank c = false → isPlain c.toLower = true) (by decide +kernel)
    hascii hblank

/-- White space is no quote. -/
lemma not_mem_of_isBlank (h : isBlank c = true) : '"' ∉ [c] := by
  intro hmem
  rw [← List.mem_singleton.mp hmem] at h
  contradiction

/-- What is read into a word is neither a quote nor white space. -/
lemma Extends.not_mem (h : Extends word c rest) : '"' ∉ [c] ∧ isBlank c = false := by
  rcases h with h | ⟨rfl | rfl, -⟩
  · simp only [isOrdinary, Bool.and_eq_true, bne_iff_ne, Bool.not_eq_true'] at h
    exact ⟨by simpa using Ne.symm h.1.1.1.1.1, h.1.1.1.1.2⟩
  · decide
  · decide

/-- Signs are plain, and no quotes. -/
lemma IsSignAt.plain (h : IsSignAt word rest sign) :
    '"' ∉ sign ∧ compact sign = sign ∧ ∀ c ∈ sign, isPlain c = true := by
  have hsigns : ∀ sign ∈ signs, '"' ∉ sign ∧ compact sign = sign ∧ sign.all isPlain = true := by
    decide +kernel
  simpa only [List.all_eq_true] using hsigns sign h.mem_signs

/-! ### Words -/

/-- A finished word contributes its small letters. -/
lemma closeWord_contents (h : ∀ c ∈ word, c.toNat < 0x80 ∧ isBlank c = false) :
    (closeWord word).flatten = word.reverse.map Char.toLower
      ∧ ∀ w ∈ closeWord word, ∀ c ∈ w, isPlain c = true := by
  have hsmall : lowercaseChars word.reverse = word.reverse.map Char.toLower :=
    Text.lowercaseChars_of_ascii fun c hc => (h c (List.mem_reverse.mp hc)).1
  have hflatten : (closeWord word).flatten = word.reverse.map Char.toLower := by
    by_cases hword : word = []
    · subst hword
      rfl
    rw [← hsmall]
    rcases closeWord_cases hword with ⟨hclose, -⟩ | ⟨time, half, hclose, hsplit⟩
    · rw [hclose, List.flatten_singleton]
    · rw [hclose, (splitMeridiem?_eq_some hsplit).1]
      simp
  refine ⟨hflatten, fun w hw c hc => ?_⟩
  have hmem : c ∈ (closeWord word).flatten := List.mem_flatten.mpr ⟨w, hw, hc⟩
  rw [hflatten] at hmem
  obtain ⟨d, hd, rfl⟩ := List.mem_map.mp hmem
  obtain ⟨hascii, hblank⟩ := h d (List.mem_reverse.mp hd)
  exact isPlain_toLower hascii hblank

/-- A word is one of some quotations in its quotes, or all of its characters are plain. -/
def IsQuotedOrPlain (quoted : List (List Char)) (w : List Char) : Prop :=
  (∃ q ∈ quoted, '"' ∉ q ∧ w = inQuotes q) ∨ ∀ c ∈ w, isPlain c = true

/-- Words that hold a word read so far, in reverse, and what the words of the rest must hold. -/
structure IsContents (word s : List Char) (words : List (List Char)) : Prop where
  flatten : words.flatten = word.reverse.map Char.toLower ++ restored (cut s)
  quotedOrPlain : ∀ w ∈ words, IsQuotedOrPlain (quotations (cut s)) w

namespace IsContents

variable {words : List (List Char)}

lemma nil : IsContents [] [] [] := ⟨rfl, List.forall_mem_nil _⟩

/-- The word read so far is finished before the others. -/
lemma close (hword : ∀ c ∈ word, c.toNat < 0x80 ∧ isBlank c = false)
    (h : IsContents [] rest words) : IsContents word rest (closeWord word ++ words) := by
  obtain ⟨hclose, hplain⟩ := closeWord_contents hword
  refine ⟨?_, List.forall_mem_append.mpr ⟨fun w hw => .inr (hplain w hw), h.quotedOrPlain⟩⟩
  rw [List.flatten_append, hclose, h.flatten]
  rfl

lemma cons_blank (hc : isBlank c = true) (h : IsContents [] rest words) :
    IsContents [] (c :: rest) words := by
  have hquote := not_mem_of_isBlank hc
  have hcompact : compact [c] = [] := by simp [compact, hc]
  rw [← List.singleton_append]
  refine ⟨?_, ?_⟩
  · rw [restored_cut_append hquote, hcompact, h.flatten]
    rfl
  · rw [quotations_cut_append hquote]
    exact h.quotedOrPlain

lemma cons_extends (hc : Extends word c rest) (h : IsContents (c :: word) rest words) :
    IsContents word (c :: rest) words := by
  obtain ⟨hquote, hblank⟩ := hc.not_mem
  have hcompact : compact [c] = [c.toLower] := by simp [compact, hblank]
  rw [← List.singleton_append]
  refine ⟨?_, ?_⟩
  · rw [restored_cut_append hquote, hcompact, h.flatten]
    simp
  · rw [quotations_cut_append hquote]
    exact h.quotedOrPlain

lemma append_sign (hsign : IsSignAt word rest sign) (h : IsContents [] rest words) :
    IsContents [] (sign ++ rest) (sign :: words) := by
  obtain ⟨hquote, hcompact, hplain⟩ := hsign.plain
  refine ⟨?_, List.forall_mem_cons.mpr ⟨.inr hplain, ?_⟩⟩
  · rw [restored_cut_append hquote, hcompact, List.flatten_cons, h.flatten]
    rfl
  · rw [quotations_cut_append hquote]
    exact h.quotedOrPlain

lemma cons_quotation (hcontent : '"' ∉ content) (h : IsContents [] rest words) :
    IsContents [] ('"' :: (content ++ '"' :: rest)) (inQuotes content :: words) := by
  refine ⟨?_, List.forall_mem_cons.mpr ⟨?_, fun w hw => ?_⟩⟩
  · rw [cut_quotation hcontent, List.flatten_cons, h.flatten]
    rfl
  · rw [cut_quotation hcontent]
    exact .inl ⟨content, List.mem_cons_self, hcontent, rfl⟩
  · rw [cut_quotation hcontent]
    exact (h.quotedOrPlain w hw).imp_left fun ⟨q, hq, hfacts⟩ =>
      ⟨q, List.mem_cons_of_mem _ hq, hfacts⟩

lemma of_openQuotation (hcontent : '"' ∉ content) :
    IsContents [] ('"' :: content) [inQuotes content] := by
  have hcut := cut_openQuotation hcontent
  refine ⟨by rw [hcut]; simp [restored, compact], List.forall_mem_singleton.mpr ?_⟩
  rw [hcut]
  exact .inl ⟨content, List.mem_cons_self, hcontent, rfl⟩

end IsContents

/-- **What is read of an input** are the small letters of the word read so far and what the words of
the rest must hold. -/
theorem readWords_contents {s : List Char} (hword : ∀ c ∈ word, c.toNat < 0x80 ∧ isBlank c = false)
    (hs : ∀ c ∈ outside (cut s), c.toNat < 0x80) : IsContents word s (readWords word s) := by
  refine readWords_induction (motive := fun word s words =>
    (∀ c ∈ word, c.toNat < 0x80 ∧ isBlank c = false) →
      (∀ c ∈ outside (cut s), c.toNat < 0x80) → IsContents word s words) ?_ ?_ ?_ ?_ ?_ ?_ word s
    hword hs
  · intro word hword _
    have h := IsContents.close hword .nil
    rwa [List.append_nil] at h
  · intro word c rest words hblank ih hword hs
    refine .close hword (.cons_blank hblank (ih (List.forall_mem_nil _) fun d hd => hs d ?_))
    rw [← List.singleton_append, outside_cut_append (not_mem_of_isBlank hblank)]
    exact List.mem_append_right _ hd
  · intro word c rest words hextends ih hword hs
    obtain ⟨hquote, hblank⟩ := hextends.not_mem
    rw [← List.singleton_append, outside_cut_append hquote] at hs
    obtain ⟨hc, hrest⟩ := List.forall_mem_cons.mp hs
    exact .cons_extends hextends (ih (List.forall_mem_cons.mpr ⟨⟨hc, hblank⟩, hword⟩) hrest)
  · intro word sign rest words hsign ih hword hs
    refine .close hword (.append_sign hsign (ih (List.forall_mem_nil _) fun d hd => hs d ?_))
    rw [outside_cut_append hsign.plain.1]
    exact List.mem_append_right _ hd
  · intro word content rest words hcontent ih hword hs
    rw [cut_quotation hcontent] at hs
    exact .close hword (.cons_quotation hcontent (ih (List.forall_mem_nil _) hs))
  · intro word content hcontent hword _
    exact .close hword (.of_openQuotation hcontent)

/-- **Words lose and add nothing.** The words of an input with ASCII text outside its quotations are,
one after the other, the text in small letters without white space and the quotations as they are,
each with both of its quotes. No word is empty, and one that holds white space, a capital or
anything beyond ASCII is a quotation between two quotes. -/
theorem splitWords_contents (input : String)
    (h : ∀ c ∈ outside (cut input.toList), c.toNat < 0x80) :
    String.join (splitWords input) = String.ofList (restored (cut input.toList))
      ∧ ∀ w ∈ splitWords input, w ≠ ""
        ∧ ((∃ c ∈ w.toList, isBlank c = true ∨ c.isUpper = true ∨ 0x80 ≤ c.toNat) →
          ∃ q ∈ quotations (cut input.toList), '"' ∉ q ∧ w.toList = '"' :: (q ++ ['"'])) := by
  obtain ⟨hflatten, hwords⟩ := readWords_contents (List.forall_mem_nil _) h
  refine ⟨?_, fun w hw => ?_⟩
  · rw [← String.toList_inj, String.toList_join, String.toList_ofList, splitWords]
    simpa [List.flatMap_map] using hflatten
  · obtain ⟨chars, hchars, rfl⟩ := List.mem_map.mp hw
    have hne := ne_nil_of_mem_readWords [] input.toList chars hchars
    refine ⟨by simpa using hne, fun ⟨c, hc, hunusual⟩ => ?_⟩
    rw [String.toList_ofList] at hc ⊢
    refine (hwords chars hchars).resolve_right fun hplain => ?_
    have hcplain := hplain c hc
    simp only [isPlain, Bool.and_eq_true, Bool.not_eq_true', decide_eq_true_eq] at hcplain
    obtain ⟨⟨hascii, hblank⟩, hupper⟩ := hcplain
    rw [hblank, hupper] at hunusual
    simp at hunusual
    omega

/-- A quotation with capitals and white space in it, a time before noon, and a quotation that is not
closed. -/
theorem splitWords_contents_say :
    let input := "Say \"Hello There\" at 5:30AM, \"and"
    (∀ c ∈ outside (cut input.toList), c.toNat < 0x80)
      ∧ splitWords input = ["say", "\"Hello There\"", "at", "5:30", "am", ",", "\"and\""]
      ∧ String.join (splitWords input) = "say\"Hello There\"at5:30am,\"and\""
      ∧ ∃ q ∈ quotations (cut input.toList), '"' ∉ q
        ∧ "\"Hello There\"".toList = '"' :: (q ++ ['"']) := by
  intro input
  have hall : (outside (cut input.toList)).all (·.toNat < 0x80) = true := by decide +kernel
  have hascii : ∀ c ∈ outside (cut input.toList), c.toNat < 0x80 := by
    simpa only [List.all_eq_true, decide_eq_true_eq] using hall
  have hwords : splitWords input
      = ["say", "\"Hello There\"", "at", "5:30", "am", ",", "\"and\""] := by decide +kernel
  obtain ⟨hjoin, hquoted⟩ := splitWords_contents input hascii
  refine ⟨hascii, hwords, hjoin.trans (by decide +kernel), ?_⟩
  exact (hquoted "\"Hello There\"" (by rw [hwords]; simp)).2 ⟨'H', by decide +kernel, by decide⟩

end ChatCommand

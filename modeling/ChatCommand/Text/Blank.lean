/-
White space.

* `isBlank`: the twenty-five characters of the white space property;
* `trim`, `trimStart`: a text without the white space around or before it;
* `splitBlanks`: the words of a text, which hold no white space;
* `mem_splitBlanks`: words hold no white space and are not empty.
-/

namespace ChatCommand.Text

/-- The white space characters: tab to carriage return, the space, the next-line control, the
no-break space and the separators. -/
def isBlank (c : Char) : Bool :=
  let n := c.toNat
  (0x09 ≤ n && n ≤ 0x0d) || n == 0x20 || n == 0x85 || n == 0xa0 || n == 0x1680
    || (0x2000 ≤ n && n ≤ 0x200a) || n == 0x2028 || n == 0x2029 || n == 0x202f || n == 0x205f
    || n == 0x3000

/-- The text without leading white space. -/
def trimStart (s : List Char) : List Char :=
  s.dropWhile isBlank

/-- No white space begins the text. -/
theorem trimStart_cons {c : Char} (h : isBlank c = false) (s : List Char) :
    trimStart (c :: s) = c :: s :=
  List.dropWhile_cons_of_neg (by simp [h])

/-- The text without trailing white space. -/
def trimEnd (s : List Char) : List Char :=
  (s.reverse.dropWhile isBlank).reverse

/-- The text without leading and trailing white space. -/
def trim (s : List Char) : List Char :=
  trimEnd (trimStart s)

/-- The words of `s` when `word` has been read of the first, in reverse. -/
def splitBlanksFrom (word : List Char) : List Char → List (List Char)
  | [] => if word.isEmpty then [] else [word.reverse]
  | c :: rest =>
    if isBlank c then
      if word.isEmpty then splitBlanksFrom [] rest else word.reverse :: splitBlanksFrom [] rest
    else splitBlanksFrom (c :: word) rest

/-- The maximal pieces without white space, in order. -/
def splitBlanks (s : List Char) : List (List Char) :=
  splitBlanksFrom [] s

/-- All that core counts as white space is white space. -/
theorem isBlank_of_isWhitespace {c : Char} (h : c.isWhitespace = true) : isBlank c = true := by
  simp only [Char.isWhitespace, Bool.or_eq_true, decide_eq_true_eq] at h
  rcases h with ((rfl | rfl) | rfl) | rfl <;> rfl

/-- Words hold no white space and are not empty. -/
theorem mem_splitBlanksFrom {word s w : List Char} (hw : ∀ c ∈ word, isBlank c = false)
    (h : w ∈ splitBlanksFrom word s) : w ≠ [] ∧ ∀ c ∈ w, isBlank c = false := by
  induction s generalizing word with
  | nil =>
    rw [splitBlanksFrom] at h
    split at h
    · simp at h
    · next hne =>
      rw [List.mem_singleton.mp h]
      exact ⟨by simpa using hne, fun c hc => hw c (List.mem_reverse.mp hc)⟩
  | cons c rest ih =>
    rw [splitBlanksFrom] at h
    split at h
    · split at h
      · exact ih (by simp) h
      · next hne =>
        rcases List.mem_cons.mp h with rfl | h
        · exact ⟨by simpa using hne, fun c hc => hw c (List.mem_reverse.mp hc)⟩
        · exact ih (by simp) h
    · next hc =>
      refine ih (fun d hd => ?_) h
      rcases List.mem_cons.mp hd with rfl | hd
      · simpa using hc
      · exact hw d hd

/-- The words of a text hold no white space and are not empty. -/
theorem mem_splitBlanks {s w : List Char} (h : w ∈ splitBlanks s) :
    w ≠ [] ∧ ∀ c ∈ w, isBlank c = false :=
  mem_splitBlanksFrom (by simp) h

end ChatCommand.Text

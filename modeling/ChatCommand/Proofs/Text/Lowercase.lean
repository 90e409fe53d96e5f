/-
Small letters.

A text in small letters stays as it is when it is lowered again, since no small form is a capital
and no other character than a letter has a small form that differs from it.

* `exists_run_of_lowerBetween`: a small letter that is found comes from a run of capitals;
* `isSmallLetter`: a letter that is its own small form;
* `IsSmallForm`, `isSmallForm_lowerChar`: a character that stays as it is, or a letter with its
  small letters;
* `lowercaseChars_eq_lowercaseFrom`: ASCII texts are lowered as all others;
* `exists_lowercaseChars`: a lowered text consists of small forms of its characters;
* `lowercaseChars_eq_self`, `lowercaseChars_lowercaseChars`: **lowering twice is lowering once**.
-/
import Mathlib.Data.List.Forall2
import ChatCommand.Text.Blank
import ChatCommand.Text.Lowercase

namespace ChatCommand.Text

/-! ### Runs of capitals -/

/-- A small letter that is found comes from a run that holds the capital. -/
lemma exists_run_of_lowerBetween {runs : Array LowerRun} {n m lo hi : Nat}
    (h : lowerBetween runs n lo hi = some m) :
    ∃ run ∈ runs.toList, run.first ≤ n ∧ n ≤ run.last ∧ (n - run.first) % run.step = 0
      ∧ m = run.lower + (n - run.first) := by
  fun_induction lowerBetween runs n lo hi with
  | case1 => contradiction
  | case2 lo hi hlt mid run hrun hbefore ih => exact ih h
  | case3 lo hi hlt mid run hrun hbefore hbehind ih => exact ih h
  | case4 lo hi hlt mid run hrun hbefore hbehind hstep =>
      refine ⟨run, Array.mem_toList_iff.mpr (Array.mem_of_getElem? hrun), Nat.not_lt.mp hbefore,
        Nat.not_lt.mp hbehind, eq_of_beq hstep, (Option.some.inj h).symm⟩
  | case5 => contradiction
  | case6 => contradiction

/-! ### Small forms -/

/-- A letter that is its own small form, and not one of those that have another at the end of a
word. -/
def isSmallLetter (c : Char) : Bool :=
  lowerChar c == [c] && c != 'Σ' && !isBlank c && (c.isLower || 0x80 ≤ c.toNat)

/-- All letters of the table are small. -/
lemma isSmallLetter_of_mem_lowerRuns :
    ∀ run ∈ lowerRuns.toList, ∀ k ∈ List.range (run.last - run.first + 1), k % run.step = 0 →
      isSmallLetter (Char.ofNat (run.lower + k)) = true := by
  decide +kernel

/-- The small forms of a character: itself if it is no capital, else small letters. -/
inductive IsSmallForm (c : Char) : List Char → Prop
  | same (h : lowerChar c = [c]) (hsigma : c ≠ 'Σ') : IsSmallForm c [c]
  | letters {small : List Char} (hc : c.isUpper ∨ 0x80 ≤ c.toNat) (hne : small ≠ [])
      (h : ∀ d ∈ small, isSmallLetter d = true) : IsSmallForm c small

/-- What holds of the first 128 characters holds of ASCII. -/
lemma forall_ascii {p : Char → Prop} (h : ∀ n < 0x80, p (Char.ofNat n)) {c : Char}
    (hc : c.toNat < 0x80) : p c := by
  have hthis := h c.toNat hc
  rwa [Char.ofNat_toNat] at hthis

/-- The letters a to z are ASCII. -/
lemma ascii_of_isLower {c : Char} (h : c.isLower = true) : c.toNat < 0x80 := by
  have hlast : c ≤ 'z' := of_decide_eq_true (Bool.and_eq_true_iff.mp h).2
  exact Nat.lt_of_le_of_lt hlast (by decide)

lemma isSmallLetter_of_isLower {c : Char} (h : c.isLower = true) : isSmallLetter c = true :=
  forall_ascii (p := fun c => c.isLower = true → isSmallLetter c = true) (by decide +kernel)
    (ascii_of_isLower h) h

lemma settled_of_isSmallLetter {c : Char} (h : isSmallLetter c = true) :
    lowerChar c = [c] ∧ c ≠ 'Σ' := by
  simp only [isSmallLetter, Bool.and_eq_true, beq_iff_eq, bne_iff_ne] at h
  exact h.1.1

lemma isBlank_of_isSmallLetter {c : Char} (h : isSmallLetter c = true) : isBlank c = false := by
  simp only [isSmallLetter, Bool.and_eq_true, Bool.not_eq_true'] at h
  exact h.1.2

/-- An ASCII character stays as it is or is a capital with a small letter. -/
lemma toLower_of_ascii {c : Char} (hc : c.toNat < 0x80) :
    c.toLower = c ∨ c.isUpper = true ∧ isSmallLetter c.toLower = true :=
  forall_ascii (p := fun c => c.toLower = c ∨ c.isUpper = true ∧ isSmallLetter c.toLower = true)
    (by decide +kernel) hc

lemma lowerChar_of_ascii {c : Char} (hc : c.toNat < 0x80) : lowerChar c = [c.toLower] := if_pos hc

/-- What a character becomes apart from its neighbours is a small form. -/
lemma isSmallForm_lowerChar {c : Char} (hsigma : c ≠ 'Σ') : IsSmallForm c (lowerChar c) := by
  by_cases hascii : c.toNat < 0x80
  · rw [lowerChar_of_ascii hascii]
    rcases toLower_of_ascii hascii with hsame | ⟨hupper, hsmall⟩
    · rw [hsame]
      exact .same (by rw [lowerChar_of_ascii hascii, hsame]) hsigma
    · exact .letters (.inl hupper) (by simp) (by simpa using hsmall)
  have hbeyond : 0x80 ≤ c.toNat := Nat.not_lt.mp hascii
  by_cases hdotted : (c.toNat == 0x130) = true
  · have hlower : lowerChar c = ['i', '\u0307'] := by
      rw [lowerChar, if_neg hascii, if_pos hdotted]
    rw [hlower]
    exact .letters (.inr hbeyond) (by simp) (List.all_eq_true.mp (by decide +kernel))
  cases hfound : lowerBetween lowerRuns c.toNat 0 lowerRuns.size with
  | none =>
      have hlower : lowerChar c = [c] := by
        rw [lowerChar, if_neg hascii, if_neg hdotted, hfound]
      rw [hlower]
      exact .same hlower hsigma
  | some m =>
      have hlower : lowerChar c = [Char.ofNat m] := by
        rw [lowerChar, if_neg hascii, if_neg hdotted, hfound]
      obtain ⟨run, hrun, hfirst, hlast, hstep, rfl⟩ := exists_run_of_lowerBetween hfound
      have hsmall := isSmallLetter_of_mem_lowerRuns run hrun (c.toNat - run.first)
        (List.mem_range.mpr (by omega)) hstep
      rw [hlower]
      exact .letters (.inr hbeyond) (by simp) (by simpa using hsmall)

namespace IsSmallForm

variable {c d : Char} {small : List Char}

lemma ne_nil (h : IsSmallForm c small) : small ≠ [] := by
  cases h with
  | same => simp
  | letters _ hne => exact hne

/-- A small form stays as it is. -/
lemma settled (h : IsSmallForm c small) (hd : d ∈ small) : lowerChar d = [d] ∧ d ≠ 'Σ' := by
  cases h with
  | same hc hsigma =>
      rw [List.mem_singleton.mp hd]
      exact ⟨hc, hsigma⟩
  | letters _ _ h => exact settled_of_isSmallLetter (h d hd)

end IsSmallForm

/-! ### Texts -/

/-- A lowered text consists of small forms of its characters. -/
lemma exists_lowercaseFrom (before s : List Char) :
    ∃ pieces, List.Forall₂ IsSmallForm s pieces ∧ lowercaseFrom before s = pieces.flatten := by
  have hsigma {small : Char} (h : isSmallLetter small = true) : IsSmallForm 'Σ' [small] :=
    .letters (.inr (by decide)) (by simp) (by simpa using h)
  have hfinal : IsSmallForm 'Σ' ['ς'] := hsigma (by decide +kernel)
  have hinner : IsSmallForm 'Σ' ['σ'] := hsigma (by decide +kernel)
  induction s generalizing before with
  | nil => exact ⟨[], .nil, rfl⟩
  | cons c rest ih =>
      obtain ⟨pieces, hpieces, hrest⟩ := ih (c :: before)
      rw [lowercaseFrom, hrest]
      split
      · next hsigma =>
          obtain rfl := eq_of_beq hsigma
          split
          · exact ⟨['ς'] :: pieces, .cons hfinal hpieces, rfl⟩
          · exact ⟨['σ'] :: pieces, .cons hinner hpieces, rfl⟩
      · next hsigma =>
          exact ⟨lowerChar c :: pieces, .cons (isSmallForm_lowerChar (by simpa using hsigma)) hpieces,
            rfl⟩

/-- An ASCII text is lowered character by character. -/
lemma lowercaseChars_of_ascii {s : List Char} (h : ∀ c ∈ s, c.toNat < 0x80) :
    lowercaseChars s = s.map Char.toLower :=
  if_pos (List.all_eq_true.mpr fun c hc => decide_eq_true (h c hc))

/-- An ASCII text needs no other treatment. -/
lemma lowercaseChars_eq_lowercaseFrom (s : List Char) : lowercaseChars s = lowercaseFrom [] s := by
  have hfrom (before s : List Char) (h : ∀ c ∈ s, c.toNat < 0x80) :
      lowercaseFrom before s = s.map Char.toLower := by
    induction s generalizing before with
    | nil => rfl
    | cons c rest ih =>
        obtain ⟨hc, hrest⟩ := List.forall_mem_cons.mp h
        have hsigma : ¬(c == 'Σ') = true := fun heq => by
          rw [eq_of_beq heq] at hc
          exact absurd hc (by decide)
        rw [lowercaseFrom, if_neg hsigma, lowerChar_of_ascii hc, ih _ hrest]
        rfl
  by_cases hascii : ∀ c ∈ s, c.toNat < 0x80
  · rw [lowercaseChars_of_ascii hascii, hfrom [] s hascii]
  · rw [lowercaseChars, if_neg (by simpa using hascii)]

lemma exists_lowercaseChars (s : List Char) :
    ∃ pieces, List.Forall₂ IsSmallForm s pieces ∧ lowercaseChars s = pieces.flatten := by
  rw [lowercaseChars_eq_lowercaseFrom]
  exact exists_lowercaseFrom [] s

lemma lowercaseChars_ne_nil {s : List Char} (h : s ≠ []) : lowercaseChars s ≠ [] := by
  obtain ⟨pieces, hpieces, hlower⟩ := exists_lowercaseChars s
  cases hpieces with
  | nil => contradiction
  | cons hform _ =>
      rw [hlower, List.flatten_cons]
      exact List.append_ne_nil_of_left_ne_nil hform.ne_nil _

/-- What consists of small forms stays as it is, behind any beginning. -/
lemma lowercaseFrom_eq_self (before : List Char) {s : List Char}
    (h : ∀ c ∈ s, lowerChar c = [c] ∧ c ≠ 'Σ') : lowercaseFrom before s = s := by
  induction s generalizing before with
  | nil => rfl
  | cons c rest ih =>
      obtain ⟨⟨hc, hsigma⟩, hrest⟩ := List.forall_mem_cons.mp h
      rw [lowercaseFrom, if_neg (by simpa using hsigma), hc, ih _ hrest]
      rfl

lemma lowercaseChars_eq_self {s : List Char} (h : ∀ c ∈ s, lowerChar c = [c] ∧ c ≠ 'Σ') :
    lowercaseChars s = s := by
  rw [lowercaseChars_eq_lowercaseFrom, lowercaseFrom_eq_self [] h]

/-- Letters a to z stay as they are. -/
lemma lowercaseChars_of_isLower {s : List Char} (h : ∀ c ∈ s, c.isLower = true) :
    lowercaseChars s = s :=
  lowercaseChars_eq_self fun c hc => settled_of_isSmallLetter (isSmallLetter_of_isLower (h c hc))

lemma settled_of_mem_lowercaseChars {s : List Char} :
    ∀ d ∈ lowercaseChars s, lowerChar d = [d] ∧ d ≠ 'Σ' := by
  obtain ⟨pieces, hpieces, hlower⟩ := exists_lowercaseChars s
  rw [hlower]
  clear hlower
  induction hpieces with
  | nil => simp
  | cons hform _ ih => exact List.forall_mem_append.mpr ⟨fun d hd => hform.settled hd, ih⟩

/-- **Lowering twice is lowering once.** -/
theorem lowercaseChars_lowercaseChars (s : List Char) :
    lowercaseChars (lowercaseChars s) = lowercaseChars s :=
  lowercaseChars_eq_self settled_of_mem_lowercaseChars

end ChatCommand.Text

/-
Numbers said in words.

* `Arithmetic.compound?_ofNat`: binary64 numbers say together what the natural numbers do, as long
  as they are not too large;
* `Phrase.IsNumberWord`, `Phrase.Speaks`: a word of the vocabulary for a number, and any phrase that
  is read as a number but not written in digits;
* `Sentence.rel_reductionStep?_of_speaks`: **reduction joins the numbers of a sentence as
  `Numeral.step?` joins natural numbers**;
* `Sentence.reduce_spell_iff`: **a number said in words is reduced to this number exactly if no
  other hundred, and no thousands behind millions, come after a thousand or a million**.
-/
import ChatCommand.Proofs.Arithmetic.Numeral
import ChatCommand.Proofs.Arithmetic.Spelling
import ChatCommand.Proofs.Decimal.Whole
import ChatCommand.Proofs.Sentence.Related
import ChatCommand.Vocabulary.Builtin

namespace ChatCommand

/-! ### What two numbers say together -/

namespace Numeral

/-- A bound that joining keeps, far below the numbers that binary64 tells apart. -/
def IsSmall (n : Nat) : Prop := n / 100 ≤ 10000000000

lemma IsSmall.lt {n : Nat} (h : IsSmall n) : n < 2 ^ 52 := by
  unfold IsSmall at h
  omega

/-- Only a number below a million is multiplied, and sums do not reach the next hundred. -/
lemma isSmall_of_join? {a b c : Nat} (ha : IsSmall a) (h : join? a b = some c) : IsSmall c := by
  unfold IsSmall at ha ⊢
  rcases join?_cases h with ⟨hb, hlt, rfl⟩ | ⟨hsum, rfl⟩
  · rcases hb with rfl | rfl | rfl <;> omega
  · omega

lemma isSmall_of_mem_spell {n : Nat} (hn : n < 1000000000) : ∀ v ∈ spell n, IsSmall v := by
  intro v hv
  have hle := (bounds_of_mem_spell hn v hv).2
  unfold IsSmall
  omega

end Numeral

namespace Arithmetic

open Binary64 Numeral

variable {a b : Nat}

lemma isMultiple_ofNat (ha : a < 2 ^ 53) (power : Nat) :
    isMultiple (Float.ofNat a) power = decide (a % power = 0) := by
  rw [isMultiple, wholePart?_ofNat ha]
  change ((a : Int) % (power : Int) == 0) = _
  rw [← Int.natCast_mod]
  grind

/-- Binary64 numbers say together what the natural numbers do. -/
theorem compound?_ofNat (ha : IsSmall a) (hb : IsSmall b) :
    compound? (Float.ofNat a) (Float.ofNat b) = (join? a b).map Float.ofNat := by
  have hlta := ha.lt
  have hltb := hb.lt
  have hless (m n : Nat) (hm : m < 2 ^ 53) (hn : n < 2 ^ 53) :
      decide (Float.ofNat m < Float.ofNat n) = decide (m < n) :=
    decide_eq_decide.mpr (ofNat_lt_iff hm hn)
  have hleast (m : Nat) (hm : m < 2 ^ 53) :
      decide (Float.ofNat m ≤ Float.ofNat a) = decide (m ≤ a) :=
    decide_eq_decide.mpr (ofNat_le_iff hm (by omega))
  have hequal (m : Nat) (hm : m < 2 ^ 53) :
      (Float.ofNat b == Float.ofNat m) = decide (b = m) := by
    rw [Bool.eq_iff_iff, ofNat_beq_iff (by omega) hm, decide_eq_true_eq]
  have hliterals (x y : Float) : compound? x y =
      if !((Binary64.of x).isWhole && (Binary64.of y).isWhole) || decide (x < Float.ofNat 0)
          || decide (y < Float.ofNat 0) then none
      else if (y == Float.ofNat 100 || y == Float.ofNat 1000 || y == Float.ofNat 1000000)
          && decide (x < y) then some (x * y)
      else if decide (Float.ofNat 100 ≤ x) && isMultiple x 100 && decide (y < Float.ofNat 100)
          || decide (Float.ofNat 20 ≤ x) && isMultiple x 10 && decide (y < Float.ofNat 10)
            && decide (Float.ofNat 0 < y) then some (x + y)
      else none := rfl
  rw [hliterals, isWhole_ofNat (by omega), isWhole_ofNat (by omega),
    isMultiple_ofNat (by omega), isMultiple_ofNat (by omega)]
  simp (disch := omega) only [hless, hleast, hequal]
  have hguard : (!(true && true) || decide (a < 0) || decide (b < 0)) = false := by simp
  rw [hguard, if_neg Bool.false_ne_true, join?]
  simp only [Bool.or_eq_true, Bool.and_eq_true, decide_eq_true_eq, or_assoc, and_assoc]
  split
  · next hscale =>
      have hsmall : a * b < 2 ^ 53 := by
        rcases hscale with ⟨rfl | rfl | rfl, hlt⟩ <;> omega
      rw [ofNat_mul (by omega) (by omega) hsmall]
      rfl
  · split
    · rw [ofNat_add (by omega)]
      rfl
    · rfl

end Arithmetic

/-! ### Phrases -/

/-- The phrase is a word of the vocabulary for the number, and read as this number alone. -/
def Phrase.IsNumberWord (p : Phrase) (n : Nat) : Prop :=
  (p.text, n) ∈ Vocabulary.numberWords
    ∧ ∃ t, p.tokens = [t] ∧ t.text = p.text ∧ t.Says (.number (Float.ofNat n))

/-- The phrase is read as the number alone, and not written in digits. -/
def Phrase.Speaks (p : Phrase) (n : Nat) : Prop :=
  p.text ≠ "" ∧ ∃ t, p.tokens = [t] ∧ Arithmetic.isWrittenInDigits t.text = false
    ∧ t.Says (.number (Float.ofNat n))

lemma Phrase.IsNumberWord.speaks {p : Phrase} {n : Nat} (h : p.IsNumberWord n) : p.Speaks n := by
  have hwords : ∀ entry ∈ Vocabulary.numberWords,
      entry.1 ≠ "" ∧ Arithmetic.isWrittenInDigits entry.1 = false := by
    decide +kernel
  obtain ⟨hmem, t, htokens, htext, hsays⟩ := h
  obtain ⟨hne, hdigits⟩ := hwords _ hmem
  exact ⟨hne, t, htokens, by rw [htext]; exact hdigits, hsays⟩

/-- Every number word of the vocabulary is the word of some phrase. -/
lemma Piece.isNumberWord_phrase {word : String} {n : Nat} (h : (word, n) ∈ Vocabulary.numberWords) :
    (Piece.phrase word (.number (Float.ofNat n))).IsNumberWord n :=
  ⟨h, _, rfl, rfl, rfl, rfl⟩

/-- A sentence of numbers that are not written in digits. -/
def Sentence.Speaks (s : Sentence) (numbers : List Nat) : Prop :=
  List.Forall₂ Phrase.Speaks s numbers

/-! ### Reduction -/

/-- Work that nothing stopped is the sentence that it left. -/
lemma Progress.eq_of_sentence {progress : Progress} {s : Sentence} (hs : progress.sentence = s)
    (hfault : progress.fault? = none) : progress = { sentence := s } := by
  subst hs
  rw [← hfault]

namespace Sentence

open Numeral

variable {s : Sentence} {numbers : List Nat} {ctx : Context}

lemma Speaks.hasVariants (hs : s.Speaks numbers) : s.HasVariants [.number] := by
  intro p hp
  obtain ⟨n, -, -, t, htokens, -, hsays⟩ := exists_mem_of_forall₂ hs p hp
  exact ⟨t, htokens, List.mem_singleton.mpr hsays.1⟩

/-- In a sentence of numbers the rule for number words is the only one that may apply. -/
lemma Speaks.reductionStep?_eq (hctx : ctx.grammar = .standard) (hs : s.Speaks numbers) :
    s.reductionStep? ctx = applyFirst? ctx.state [Arithmetic.rules[0]] 2 s := by
  have hsearches : Grammar.searches [.number] = [([Arithmetic.rules[0]], 2)] := rfl
  rw [reductionStep?_of_variants hctx hs.hasVariants, hsearches, List.findSome?_singleton]

/-- A reduction joins the first numbers that `Numeral.step?` joins. -/
theorem rel_reductionStep?_of_speaks (hctx : ctx.grammar = .standard) (hs : s.Speaks numbers)
    (hsmall : ∀ n ∈ numbers, IsSmall n) :
    Option.Rel Speaks (s.reductionStep? ctx) (step? numbers) := by
  rw [hs.reductionStep?_eq hctx]
  induction hs with
  | nil => exact .none
  | @cons p a s numbers hp hs ih =>
      cases hs with
      | nil => exact .none
      | @cons q b s numbers hq hs =>
          obtain ⟨ha, hrest⟩ := List.forall_mem_cons.mp hsmall
          obtain ⟨hb, -⟩ := List.forall_mem_cons.mp hrest
          obtain ⟨hptext, t, hptokens, htdigits, htsays⟩ := hp
          obtain ⟨hqtext, u, hqtokens, hudigits, husays⟩ := hq
          have htoken : [Arithmetic.rules[0]].findSome? (·.token? ctx.state [p, q])
              = ((join? a b).map Float.ofNat).map (Arithmetic.result
                  { text := joinText [p, q], tokens := [t, u] }) := by
            rw [List.findSome?_cons, List.findSome?_nil,
              Arithmetic.token?_compound ctx.state hptokens htsays hqtokens husays, hudigits,
              if_neg Bool.false_ne_true, Arithmetic.compound?_ofNat ha hb]
            cases join? a b <;> rfl
          rw [applyFirst?, if_pos (by simp), step?]
          cases hjoin : join? a b with
          | some c =>
              rw [hjoin] at htoken
              simp only [List.take_succ_cons, List.take_zero, htoken]
              refine .some (.cons ?_ hs)
              exact ⟨joinText_ne_empty ⟨p, rfl, hptext⟩, _, rfl,
                Arithmetic.isWrittenInDigits_joinText [] hptext [], rfl, rfl⟩
          | none =>
              rw [hjoin] at htoken
              simp only [List.take_succ_cons, List.take_zero, htoken]
              exact rel_map (ih hrest) fun _ _ hbehind =>
                .cons ⟨hptext, t, hptokens, htdigits, htsays⟩ hbehind

/-- What a sentence of numbers is reduced to is what joining the numbers ends in. -/
lemma Speaks.reduce (hctx : ctx.grammar = .standard) (hs : s.Speaks numbers)
    (hsmall : ∀ n ∈ numbers, IsSmall n) :
    (s.reduce ctx).sentence.Speaks (Repetition.run step? ctx.budget numbers).1
      ∧ ((s.reduce ctx).fault? = none ↔ (Repetition.run step? ctx.budget numbers).2 = false) := by
  have hstep (s : Sentence) (numbers : List Nat)
      (h : s.Speaks numbers ∧ ∀ n ∈ numbers, IsSmall n) :
      Option.Rel (fun s numbers => s.Speaks numbers ∧ ∀ n ∈ numbers, IsSmall n)
        (s.reductionStep? ctx) (step? numbers) := by
    rcases rel_iff.mp (rel_reductionStep?_of_speaks hctx h.1 h.2)
      with ⟨hs, hn⟩ | ⟨_, _, hs, hn, hspeaks⟩
    · rw [hs, hn]
      exact .none
    · rw [hs, hn]
      exact .some ⟨hspeaks, forall_of_step? (fun a b c ha _ => isSmall_of_join? ha) h.2 hn⟩
  obtain ⟨⟨hspeaks, -⟩, hmore⟩ := Repetition.rel_run hstep ctx.budget ⟨hs, hsmall⟩
  rw [Sentence.reduce, hs.hasVariants.withoutUnread, Progress.fault?_ofRun_eq_none_iff, hmore]
  exact ⟨hspeaks, .rfl⟩

/-- **A number said in words is reduced to this number exactly if no other hundred, and no thousands
behind millions, come after a thousand or a million.** Then one phrase is left, and it is the
number; else reduction leaves the words in several numbers. -/
theorem reduce_spell_iff (hctx : ctx.grammar = .standard) {n : Nat} (hpos : 0 < n)
    (hn : n < 1000000000) (hs : List.Forall₂ Phrase.IsNumberWord s (spell n))
    (hbudget : (spell n).length ≤ ctx.budget + 1) :
    (∃ p, s.reduce ctx = { sentence := [p] } ∧ p.Says (.number (Float.ofNat n))) ↔
      n < 1000 ∨ n < 1000000 ∧ n % 1000 < 100 ∨ n % 1000000 < 100 := by
  have hspeaks : s.Speaks (spell n) := hs.imp fun _ _ => Phrase.IsNumberWord.speaks
  obtain ⟨hends, hfault⟩ := hspeaks.reduce hctx (isSmall_of_mem_spell hn)
  constructor
  · rintro ⟨p, hp, -⟩
    by_contra hflat
    have hlength := two_le_length_run_spell hn hflat ctx.budget
    rw [hp] at hends
    rw [← List.Forall₂.length_eq hends] at hlength
    contradiction
  · intro hflat
    rw [run_spell hpos hn hflat hbudget] at hends hfault
    obtain ⟨p, rest, ⟨-, t, htokens, -, hsays⟩, hrest, hsentence⟩ :=
      List.forall₂_cons_right_iff.mp hends
    obtain rfl := List.forall₂_nil_right_iff.mp hrest
    exact ⟨p, Progress.eq_of_sentence hsentence (hfault.mpr rfl), t, htokens, hsays⟩

/-- One hundred million and twenty five. -/
theorem exists_reduce_spell :
    ∃ p, reduce .bare [Piece.phrase "one" (.number 1), Piece.phrase "hundred" (.number 100),
        Piece.phrase "million" (.number 1000000), Piece.phrase "twenty" (.number 20),
        Piece.phrase "five" (.number 5)] = { sentence := [p] }
      ∧ p.Says (.number 100000025) := by
  refine (reduce_spell_iff (n := 100000025) rfl (by decide) (by decide) ?_ (by decide)).mpr ?_
  · exact .cons (Piece.isNumberWord_phrase (by decide)) <|
      .cons (Piece.isNumberWord_phrase (by decide)) <|
      .cons (Piece.isNumberWord_phrase (by decide)) <|
      .cons (Piece.isNumberWord_phrase (by decide)) <|
      .cons (Piece.isNumberWord_phrase (by decide)) .nil
  · decide

/-- "One thousand two hundred" stays two numbers: the two joins the thousand before the hundred is
seen. -/
theorem reduce_twelve_hundred :
    let s : Sentence := [Piece.phrase "one" (.number 1), Piece.phrase "thousand" (.number 1000),
      Piece.phrase "two" (.number 2), Piece.phrase "hundred" (.number 100)]
    List.Forall₂ Phrase.IsNumberWord s (spell 1200)
      ∧ ∃ p q, s.reduce .bare = { sentence := [p, q] } ∧ p.Says (.number 1002)
        ∧ q.Says (.number 100) := by
  intro s
  have hs : List.Forall₂ Phrase.IsNumberWord s (spell 1200) :=
    .cons (Piece.isNumberWord_phrase (by decide)) <|
      .cons (Piece.isNumberWord_phrase (by decide)) <|
      .cons (Piece.isNumberWord_phrase (by decide)) <|
      .cons (Piece.isNumberWord_phrase (by decide)) .nil
  refine ⟨hs, ?_⟩
  have hspeaks : s.Speaks (spell 1200) := hs.imp fun _ _ => Phrase.IsNumberWord.speaks
  have hctx : Context.bare.grammar = .standard := rfl
  obtain ⟨hends, hfault⟩ := hspeaks.reduce hctx (isSmall_of_mem_spell (by decide))
  have hrun : Repetition.run step? Context.bare.budget (spell 1200) = ([1002, 100], false) := rfl
  rw [hrun] at hends hfault
  obtain ⟨p, rest, ⟨-, t, htokens, -, hp⟩, hrest, hsentence⟩ := List.forall₂_cons_right_iff.mp hends
  obtain ⟨q, rest, ⟨-, u, hutokens, -, hq⟩, hnil, rfl⟩ := List.forall₂_cons_right_iff.mp hrest
  obtain rfl := List.forall₂_nil_right_iff.mp hnil
  exact ⟨p, q, Progress.eq_of_sentence hsentence (hfault.mpr rfl), ⟨t, htokens, hp⟩,
    ⟨u, hutokens, hq⟩⟩

end Sentence

end ChatCommand

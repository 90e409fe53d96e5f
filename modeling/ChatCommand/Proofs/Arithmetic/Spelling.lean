/-
Sentences of arithmetic.

* `Token.Says`, `Phrase.Says`, `Sentence.Spells`: a sentence that is one word of arithmetic after
  the other;
* `Sentence.spelling`: such a sentence for any words;
* `Signature.bind?_eq_none_of_spells`: the rules that join things, build times and select players
  take no such phrases;
* `Arithmetic.token?_compound`, `Arithmetic.isWrittenInDigits_joinText`: what two numbers beside
  each other become, and that texts put together are not written in digits;
* `Sentence.rel_reductionStep?_of_spells`: **reduction does to the sentence what `Piece.step?` does to
  the words**, if no number stands beside a number;
* `Sentence.Spells.reduce`: so it is for whole reductions.
-/
import Mathlib.Data.List.Chain
import Mathlib.Data.List.Forall2
import Mathlib.Tactic.Common
import ChatCommand.Proofs.Arithmetic.Rewriting
import ChatCommand.Proofs.Sentence.Related
import ChatCommand.Proofs.Sentence.Standard
import ChatCommand.Proofs.Sentence.Texts

namespace ChatCommand

/-! ### Spelling -/

/-- The token is read as the word. -/
def Token.Says (t : Token) : Piece → Prop
  | .number x => t.variant = .number ∧ t.value = some (.number x)
  | .operator o => t.variant = .arithmetic o

/-- The word is the only reading of the phrase. -/
def Phrase.Says (p : Phrase) (word : Piece) : Prop :=
  ∃ t, p.tokens = [t] ∧ t.Says word

/-- The sentence is one word after the other. -/
def Sentence.Spells (s : Sentence) (words : List Piece) : Prop :=
  List.Forall₂ Phrase.Says s words

namespace Token

variable {t : Token} {word : Piece}

lemma Says.eq_number (h : t.Says word) (ht : t.variant = .number) :
    ∃ x, word = .number x ∧ t.number? = some x := by
  cases word with
  | number x => exact ⟨x, rfl, by rw [Token.number?, h.2]; rfl⟩
  | operator o => simp [Says, ht] at h

lemma Says.eq_operator (h : t.Says word) {o : ArithmeticOperator}
    (ht : t.variant = .arithmetic o) : word = .operator o := by
  cases word with
  | number x => simp [Says, ht] at h
  | operator o' =>
      simp only [Says, ht, TokenVariant.arithmetic.injEq] at h
      rw [h]

lemma Says.number?_eq {x : Float} (h : t.Says (.number x)) : t.number? = some x := by
  rw [Token.number?, h.2]
  rfl

end Token

/-- A phrase for the number that a rule has computed. -/
lemma Phrase.says_ofToken (text : String) (b : Binding) (x : Float) :
    (Phrase.ofToken text (Arithmetic.result b x)).Says (.number x) :=
  ⟨_, rfl, rfl, rfl⟩

/-- A phrase with the word as its only reading. -/
def Piece.phrase (text : String) (word : Piece) : Phrase :=
  .ofToken text <| match word with
    | .number x => { text, variant := .number, value := some (.number x), similarity := .zero }
    | .operator o => { text, variant := .arithmetic o, similarity := .zero }

/-- Words of arithmetic as a sentence, each with its text. -/
def Sentence.spelling (words : List (String × Piece)) : Sentence :=
  words.map fun (text, word) => word.phrase text

/-- Every sequence of words is spelled by some sentence. -/
lemma Sentence.spells_spelling (words : List (String × Piece)) :
    (spelling words).Spells (words.map Prod.snd) := by
  refine List.forall₂_map_left_iff.mpr (List.forall₂_map_right_iff.mpr ?_)
  refine List.forall₂_same.mpr fun word _ => ?_
  match word with
  | (text, .number x) => exact ⟨_, rfl, rfl, rfl⟩
  | (text, .operator o) => exact ⟨_, rfl, rfl⟩

/-- The rules of the standard grammar and nothing else to read with. -/
def Context.bare : Context :=
  { grammar := .standard, catalog := .empty, state := { now := ⟨0⟩ } }

/-! ### Rules that take no arithmetic -/

/-- Whether the class holds neither numbers nor arithmetic operators. -/
def TokenClass.isForeign (c : TokenClass) : Bool :=
  !c.contains .number
    && (Named.all : List ArithmeticOperator).all fun o => !c.contains (.arithmetic o)

lemma TokenClass.contains_eq_false {c : TokenClass} (hc : c.isForeign = true) {t : Token}
    {word : Piece} (ht : t.Says word) : c.contains t.variant = false := by
  simp only [isForeign, Bool.and_eq_true, Bool.not_eq_true', List.all_eq_true] at hc
  cases word with
  | number x => rw [ht.1, hc.1]
  | operator o =>
      have ho : o ∈ (Named.all : List ArithmeticOperator) := by cases o <;> decide
      rw [show t.variant = .arithmetic o from ht, hc.2 o ho]

/-- A rule with a parameter for something else takes no window of arithmetic. -/
lemma Signature.bind?_eq_none_of_spells {s : Signature}
    (hs : ∃ c ∈ s.parameters, c.isForeign = true) {window : List Phrase} {words : List Piece}
    (hwindow : Sentence.Spells window words) : s.bind? window = none := by
  obtain ⟨c, hc, hforeign⟩ := hs
  refine bind?_eq_none_of_not_contains hc fun p hp t ht => ?_
  obtain ⟨word, -, u, htokens, hsays⟩ := exists_mem_of_forall₂ hwindow p hp
  obtain rfl : t = u := by simpa [htokens] using ht
  exact TokenClass.contains_eq_false hforeign hsays

/-- Joining, building times and selecting players need other words than those of arithmetic. -/
lemma Grammar.exists_isForeign {r : Rule} (hr : r ∈ standardRules)
    (htier : r.tier = .joining ∨ r.tier = .general) :
    ∃ c ∈ r.signature.parameters, c.isForeign = true := by
  simp only [standardRules, List.mem_append, Joining.rules, Arithmetic.rules, Times.rules,
    Filters.rules, List.mem_cons, List.not_mem_nil, or_false] at hr
  rcases hr with ((hr | hr) | hr) | hr
  · rcases hr with rfl | rfl | rfl | rfl | rfl | rfl | rfl | rfl <;> decide
  · rcases hr with rfl | rfl | rfl | rfl <;> simp at htier
  · rcases hr with rfl | rfl | rfl | rfl | rfl | rfl | rfl | rfl | rfl <;> decide
  · rcases hr with rfl | rfl | rfl | rfl | rfl | rfl <;> decide

/-! ### Rules of arithmetic -/

/-- Two phrases of which one is no number are no number words. -/
lemma Arithmetic.token?_compound_eq_none (state : State) {p q : Phrase} {a b : Piece}
    (hp : p.Says a) (hq : q.Says b) (h : ¬(a.isNumber ∧ b.isNumber)) :
    rules[0].token? state [p, q] = none := by
  obtain ⟨t, hp, ht⟩ := hp
  obtain ⟨u, hq, hu⟩ := hq
  rw [Rule.token?_inOrder state rfl rfl (.cons hp (.cons hq .nil)) rfl, if_neg]
  intro haccepts
  have hboth : TokenVariant.number = t.variant ∧ TokenVariant.number = u.variant := by
    simpa [Signature.acceptsInOrder, Signature.accepts_only, rules] using haccepts
  obtain ⟨x, rfl, -⟩ := ht.eq_number hboth.1.symm
  obtain ⟨y, rfl, -⟩ := hu.eq_number hboth.2.symm
  exact h ⟨rfl, rfl⟩

/-- Two numbers beside each other become what they say together, if the second is not written in
digits. -/
lemma Arithmetic.token?_compound (state : State) {p q : Phrase} {t u : Token} {a b : Float}
    (hp : p.tokens = [t]) (ht : t.Says (.number a)) (hq : q.tokens = [u])
    (hu : u.Says (.number b)) :
    rules[0].token? state [p, q] =
      if isWrittenInDigits u.text then none
      else (compound? a b).map (result { text := joinText [p, q], tokens := [t, u] }) := by
  have haccepts : rules[0].signature.acceptsInOrder [t, u] = true := by
    simp [Signature.acceptsInOrder, Signature.accepts_only, rules, ht.1, hu.1]
  have houtcome : rules[0].outcome = compound := rfl
  rw [Rule.token?_inOrder state rfl rfl (.cons hp (.cons hq .nil)) rfl, if_pos haccepts, houtcome,
    compound]
  simp only [ht.number?_eq, hu.number?_eq]
  cases isWrittenInDigits u.text <;> rfl

/-- The text of several phrases, of which one but the last has a text, is not written in digits:
there are spaces in it. -/
lemma Arithmetic.isWrittenInDigits_joinText (front : List Phrase) {p q : Phrase} (hp : p.text ≠ "")
    (rest : List Phrase) : isWrittenInDigits (joinText (front ++ p :: q :: rest)) = false := by
  have key (phrases : List Phrase) (text : String) (h : ' ' ∈ text.toList) :
      ' ' ∈ (phrases.foldl (fun text p => appendSpan text p.text) text).toList := by
    induction phrases generalizing text with
    | nil => exact h
    | cons r phrases ih =>
        have hne : text ≠ "" := by
          rintro rfl
          simp at h
        have hspan : ' ' ∈ (appendSpan text r.text).toList := by
          rw [appendSpan_of_ne_empty hne]
          simp [h]
        exact ih _ hspan
  have hfront (text : String) : appendSpan text p.text ≠ "" := by
    rw [appendSpan]
    split <;> simp [hp]
  have hspace (text : String) : ' ' ∈ (appendSpan (appendSpan text p.text) q.text).toList := by
    rw [appendSpan_of_ne_empty (hfront text)]
    simp
  rw [joinText, List.foldl_append, List.foldl_cons, List.foldl_cons]
  exact List.all_eq_false.mpr ⟨' ', key rest _ (hspace _), by decide⟩

/-- Some rules make of three words the number that the words are a redex for, and nothing of
others. -/
def Simulates (state : State) (rules : List Rule) (redex? : Piece → Piece → Piece → Option Float) :
    Prop :=
  ∀ p q r a b c, Phrase.Says p a → Phrase.Says q b → Phrase.Says r c →
    match redex? a b c with
    | some x => ∃ binding, rules.findSome? (·.token? state [p, q, r])
        = some (Arithmetic.result binding x)
    | none => rules.findSome? (·.token? state [p, q, r]) = none

section Rules

variable (state : State)

/-- Brackets around a number. -/
lemma simulates_parentheses :
    Simulates state (Grammar.standard.rulesOf .firstOrder 3) Piece.bracketed? := by
  rintro p q r a b c ⟨t, hp, ht⟩ ⟨u, hq, hu⟩ ⟨v, hr, hv⟩
  have haccepts : Arithmetic.rules[1].signature.acceptsInOrder [t, u, v] = true ↔
      .arithmetic .openParenthesis = t.variant ∧ .number = u.variant
        ∧ .arithmetic .closeParenthesis = v.variant := by
    simp [Signature.acceptsInOrder, Signature.accepts_only, Arithmetic.rules]
  have hrules : Grammar.standard.rulesOf .firstOrder 3 = [Arithmetic.rules[1]] := rfl
  simp only [hrules, List.findSome?_cons, List.findSome?_nil]
  rw [Rule.token?_inOrder state rfl rfl (.cons hp (.cons hq (.cons hr .nil))) rfl]
  cases h : Piece.bracketed? a b c with
  | some x =>
      obtain ⟨rfl, rfl, rfl⟩ := Piece.bracketed?_eq_some_iff.mp h
      rw [if_pos (haccepts.mpr ⟨ht.symm, hu.1.symm, hv.symm⟩)]
      refine ⟨{ text := joinText [p, q, r], tokens := [t, u, v] }, ?_⟩
      have houtcome : Arithmetic.rules[1].outcome = Arithmetic.parentheses := rfl
      simp [houtcome, Arithmetic.parentheses, hu.number?_eq]
  | none =>
      rw [if_neg]
      intro hyes
      obtain ⟨htvariant, huvariant, hvvariant⟩ := haccepts.mp hyes
      obtain ⟨x, rfl, -⟩ := hu.eq_number huvariant.symm
      rw [ht.eq_operator htvariant.symm, hv.eq_operator hvvariant.symm] at h
      contradiction

/-- The operators of some precedence between two numbers. -/
lemma simulates_binary {precedence : Precedence} {c : TokenClass} {id : String} {tier : Tier}
    (hc : ∀ variant, c.contains variant = true ↔
      ∃ o, variant = .arithmetic o ∧ o.precedence = precedence) :
    Simulates state
      [{ tier, signature := { id, parameters := [.only .number, c, .only .number] }
         outcome := Arithmetic.binary }]
      (Piece.application? precedence) := by
  rintro p q r a b d ⟨t, hp, ht⟩ ⟨u, hq, hu⟩ ⟨v, hr, hv⟩
  have haccepts : Signature.acceptsInOrder { id, parameters := [.only .number, c, .only .number] }
      [t, u, v] = true ↔ .number = t.variant
        ∧ (∃ o, u.variant = .arithmetic o ∧ o.precedence = precedence) ∧ .number = v.variant := by
    rw [← hc u.variant]
    simp [Signature.acceptsInOrder, Signature.accepts, TokenClass.contains_only_iff]
  simp only [List.findSome?_cons, List.findSome?_nil]
  rw [Rule.token?_inOrder state rfl rfl (.cons hp (.cons hq (.cons hr .nil))) rfl]
  by_cases h : Signature.acceptsInOrder { id, parameters := [.only .number, c, .only .number] }
      [t, u, v] = true
  · obtain ⟨htvariant, ⟨o, ho, hprecedence⟩, hvvariant⟩ := haccepts.mp h
    obtain ⟨x, rfl, hx⟩ := ht.eq_number htvariant.symm
    obtain ⟨y, rfl, hy⟩ := hv.eq_number hvvariant.symm
    obtain rfl := hu.eq_operator ho
    rw [if_pos h]
    simp only [Piece.application?, hprecedence, if_true, Option.bind_some, Arithmetic.binary, ho,
      hx, hy, Option.bind_eq_bind]
    cases o.result? x y with
    | none => rfl
    | some z => exact ⟨_, rfl⟩
  · rw [if_neg h]
    cases hredex : Piece.application? precedence a b d with
    | none => rfl
    | some z =>
        obtain ⟨x, o, y, rfl, rfl, rfl, hprecedence, -⟩ := Piece.application?_eq_some_iff.mp hredex
        exact absurd (haccepts.mpr ⟨ht.1.symm, ⟨o, hu, hprecedence⟩, hv.1.symm⟩) h

/-- The class of the operators of some precedence has no other members. -/
lemma contains_precedence_iff {precedence : Precedence} {c : TokenClass}
    (hc : (precedence, c) ∈ [(Precedence.second, TokenClass.secondOrder), (.third, .thirdOrder)])
    (variant : TokenVariant) :
    c.contains variant = true ↔ ∃ o, variant = .arithmetic o ∧ o.precedence = precedence := by
  simp only [List.mem_cons, List.not_mem_nil, or_false, Prod.mk.injEq] at hc
  rw [TokenClass.contains_iff]
  rcases hc with ⟨rfl, rfl⟩ | ⟨rfl, rfl⟩
  all_goals
    cases variant with
    | arithmetic o => cases o <;> simp [TokenClass.ancestors, TokenClass.above, TokenClass.parent?,
        TokenClass.familyOf, ArithmeticOperator.precedence]
    | _ => simp [TokenClass.ancestors, TokenClass.above, TokenClass.parent?, TokenClass.familyOf]

lemma simulates_secondOrder :
    Simulates state (Grammar.standard.rulesOf .secondOrder 3) (Piece.application? .second) :=
  simulates_binary state (contains_precedence_iff (by simp))

lemma simulates_thirdOrder :
    Simulates state (Grammar.standard.rulesOf .thirdOrder 3) (Piece.application? .third) :=
  simulates_binary state (contains_precedence_iff (by simp))

end Rules

/-! ### Reduction -/

namespace Sentence

variable {s : Sentence} {words : List Piece}

/-- Neighbours in a sentence of arithmetic are arithmetic. -/
lemma Spells.window (hs : s.Spells words) (offset count : Nat) :
    Spells (s.window offset count) ((words.drop offset).take count) :=
  List.forall₂_take count (List.forall₂_drop offset hs)

/-- Rules that take no arithmetic leave a sentence of arithmetic alone. -/
lemma Spells.applyFirst?_eq_none {state : State} {rules : List Rule}
    (hrules : ∀ r ∈ rules, ∃ c ∈ r.signature.parameters, c.isForeign = true) (count : Nat)
    (hs : s.Spells words) : applyFirst? state rules count s = none := by
  refine Sentence.applyFirst?_eq_none fun offset => List.findSome?_eq_none_iff.mpr fun r hr => ?_
  rw [Rule.token?, Signature.bind?_eq_none_of_spells (hrules r hr) (hs.window offset count)]
  rfl

/-- Rules that make numbers of redexes rewrite the sentence as the redexes rewrite its words. -/
lemma rel_applyFirst?_of_simulates {state : State} {rules : List Rule}
    {redex? : Piece → Piece → Piece → Option Float} (hrules : Simulates state rules redex?)
    (hs : s.Spells words) :
    Option.Rel Spells (applyFirst? state rules 3 s) (Piece.rewriteFirst? redex? words) := by
  induction hs with
  | nil => exact .none
  | @cons p a s words hp hs ih =>
      cases hs with
      | nil => exact .none
      | @cons q b _ _ hq hs =>
      cases hs with
      | nil => exact .none
      | @cons r c s words hr hs =>
          have hlength : 3 ≤ (q :: r :: s).length + 1 := by
            simp only [List.length_cons]
            omega
          rw [Piece.rewriteFirst?, applyFirst?, if_pos hlength]
          have hat := hrules p q r a b c hp hq hr
          cases hredex : redex? a b c with
          | some x =>
              rw [hredex] at hat
              obtain ⟨binding, hbinding⟩ := hat
              simp only [List.take_succ_cons, List.take_zero, hbinding]
              exact .some (.cons (Phrase.says_ofToken _ binding x) hs)
          | none =>
              rw [hredex] at hat
              simp only [List.take_succ_cons, List.take_zero, hat]
              exact rel_map ih fun _ _ hbehind => .cons hp hbehind

/-- The rule for number words needs two numbers beside each other. -/
lemma Spells.applyFirst?_compound_eq_none {state : State} (hs : s.Spells words)
    (hwords : Piece.Apart words) :
    applyFirst? state (Grammar.standard.rulesOf .firstOrder 2) 2 s = none := by
  have hrules : Grammar.standard.rulesOf .firstOrder 2 = [Arithmetic.rules[0]] := rfl
  rw [hrules]
  refine Sentence.applyFirst?_eq_none fun offset => ?_
  have hwindow := hs.window offset 2
  have hchain := (hwords.drop offset).take 2
  have hnone : Arithmetic.rules[0].token? state (s.window offset 2) = none := by
    by_cases hlength : (s.window offset 2).length = 2
    · obtain ⟨p, q, hpq⟩ := List.length_eq_two.mp hlength
      rw [hpq] at hwindow ⊢
      obtain ⟨a, rest, hp, hrest, hw⟩ := List.forall₂_cons_left_iff.mp hwindow
      obtain ⟨b, rest, hq, -, rfl⟩ := List.forall₂_cons_left_iff.mp hrest
      rw [hw] at hchain
      exact Arithmetic.token?_compound_eq_none state hp hq (List.isChain_cons_cons.mp hchain).1
    · exact Rule.token?_eq_none_of_length hlength
  rw [List.findSome?_cons, List.findSome?_nil, hnone]

/-- Only the rules for brackets and for operators between numbers may apply to a sentence of
arithmetic, if no number stands beside a number. -/
lemma Spells.reductionStep?_eq {ctx : Context} (hctx : ctx.grammar = .standard)
    (hs : s.Spells words) (hwords : Piece.Apart words) :
    s.reductionStep? ctx
      = (applyFirst? ctx.state (Grammar.standard.rulesOf .firstOrder 3) 3 s).or
          ((applyFirst? ctx.state (Grammar.standard.rulesOf .secondOrder 3) 3 s).or
            (applyFirst? ctx.state (Grammar.standard.rulesOf .thirdOrder 3) 3 s)) := by
  have hforeign (tier : Tier) (htier : tier = .joining ∨ tier = .general) (count : Nat) :
      applyFirst? ctx.state (Grammar.standard.rulesOf tier count) count s = none := by
    refine hs.applyFirst?_eq_none (fun r hr => ?_) count
    obtain ⟨hr, htaken⟩ := List.mem_filter.mp hr
    have hrtier : r.tier = tier := by
      simp only [Bool.and_eq_true, decide_eq_true_eq] at htaken
      exact htaken.1
    exact Grammar.exists_isForeign hr (hrtier ▸ htier)
  rw [reductionStep?_standard hctx]
  simp only [List.findSome?_cons, List.findSome?_nil, hforeign .joining (.inl rfl),
    hforeign .general (.inr rfl), hs.applyFirst?_compound_eq_none hwords]
  cases applyFirst? ctx.state (Grammar.standard.rulesOf .firstOrder 3) 3 s with
  | some s' => rfl
  | none =>
      cases applyFirst? ctx.state (Grammar.standard.rulesOf .secondOrder 3) 3 s with
      | some s' => rfl
      | none => cases applyFirst? ctx.state (Grammar.standard.rulesOf .thirdOrder 3) 3 s <;> rfl

/-- **Reduction does to a sentence of arithmetic what `Piece.step?` does to its words**, if no
number stands beside a number. -/
theorem rel_reductionStep?_of_spells {ctx : Context} (hctx : ctx.grammar = .standard)
    (hs : s.Spells words) (hwords : Piece.Apart words) :
    Option.Rel Spells (s.reductionStep? ctx) (Piece.step? words) := by
  rw [hs.reductionStep?_eq hctx hwords, Piece.step?]
  exact rel_or (rel_applyFirst?_of_simulates (simulates_parentheses ctx.state) hs) <|
    rel_or (rel_applyFirst?_of_simulates (simulates_secondOrder ctx.state) hs)
      (rel_applyFirst?_of_simulates (simulates_thirdOrder ctx.state) hs)

/-- A reduction keeps the text of a sentence whose phrases have texts. -/
lemma text_of_reductionStep? {ctx : Context} (hctx : ctx.grammar = .standard) {s' : Sentence}
    (hs : s.HasTexts) (h : s.reductionStep? ctx = some s') : s'.HasTexts ∧ s'.text = s.text := by
  rw [reductionStep?_standard hctx] at h
  obtain ⟨⟨tier, count⟩, hmem, happly⟩ := List.exists_of_findSome?_eq_some h
  have hcount : 0 < count := by
    have hall : ∀ place ∈ [(Tier.joining, 2), (.joining, 3), (.firstOrder, 2), (.firstOrder, 3),
        (.secondOrder, 3), (.thirdOrder, 3), (.general, 2), (.general, 3)], 0 < place.2 := by
      decide
    exact hall _ hmem
  exact text_of_applyFirst? hcount hs happly

end Sentence

/-! ### Formulas in sentences -/

/-- The number of a phrase that is read as one. -/
def Phrase.number? (p : Phrase) : Option Float := do
  let t ← p.best?
  if t.variant = .number then t.number? else none

namespace Sentence

variable {s : Sentence} {e : Formula}

/-- The number of a sentence that is nothing else. -/
def number? : Sentence → Option Float
  | [p] => p.number?
  | _ => none

lemma number?_eq_none_of_length (h : s.length ≠ 1) : s.number? = none := by
  unfold number?
  split
  · contradiction
  · rfl

/-- A sentence is a number if the formula that it spells is. -/
lemma Spells.number?_eq (hs : s.Spells e.pieces) : s.number? = e.number? := by
  match e with
  | ⟨.number x, .nil⟩ =>
      obtain ⟨p, rest, ⟨t, htokens, ht⟩, hrest, rfl⟩ := List.forall₂_cons_right_iff.mp hs
      obtain rfl := List.forall₂_nil_right_iff.mp hrest
      rw [number?, Phrase.number?, Phrase.best?_of_tokens htokens, Formula.number?,
        Option.bind_eq_bind, Option.bind_some, if_pos ht.1, ht.number?_eq]
  | ⟨.number x, .cons o y rest⟩ =>
      refine number?_eq_none_of_length ?_
      rw [hs.length_eq]
      simp [Formula.pieces, Operand.pieces, Operations.pieces]
  | ⟨.group first inner, rest⟩ =>
      refine number?_eq_none_of_length ?_
      rw [hs.length_eq]
      simp [Formula.pieces, Operand.pieces]

/-- A sentence of arithmetic is read. -/
lemma Spells.withoutUnread_eq {words : List Piece} (hs : s.Spells words) : s.withoutUnread = s := by
  refine withoutUnread_eq_self fun p hp => ?_
  obtain ⟨word, -, t, ht, -⟩ := exists_mem_of_forall₂ hs p hp
  exact ⟨t, ht⟩

variable {ctx : Context}

/-- A reduction of a sentence that spells a formula is a step of the formula. -/
lemma Spells.rel_reductionStep? (hctx : ctx.grammar = .standard) (hs : s.Spells e.pieces) :
    Option.Rel (fun s (e : Formula) => Spells s e.pieces) (s.reductionStep? ctx) e.step? := by
  have hstep := rel_reductionStep?_of_spells hctx hs e.apart_pieces
  rw [e.step?_pieces] at hstep
  exact rel_map_right_iff.mp hstep

/-- **Reduction works on a sentence as on the formula that it spells.** -/
theorem Spells.reduce (hctx : ctx.grammar = .standard) (hs : s.Spells e.pieces) :
    (s.reduce ctx).sentence.Spells (Repetition.run Formula.step? ctx.budget e).1.pieces
      ∧ ((s.reduce ctx).fault? = none ↔ (Repetition.run Formula.step? ctx.budget e).2 = false) := by
  obtain ⟨hspells, hmore⟩ := Repetition.rel_run (fun _ _ hs => Spells.rel_reductionStep? hctx hs)
    ctx.budget hs
  rw [Sentence.reduce, hs.withoutUnread_eq, Progress.fault?_ofRun_eq_none_iff, hmore]
  exact ⟨hspells, .rfl⟩

/-- Reduction keeps the text of a sentence whose phrases have texts. -/
theorem text_reduce (hctx : ctx.grammar = .standard) (hs : s.HasTexts) :
    (s.reduce ctx).sentence.text = s.withoutUnread.text := by
  have hread : s.withoutUnread.HasTexts := fun p hp => hs p (List.mem_of_mem_filter hp)
  let keeps (r : Sentence) : Prop := r.HasTexts ∧ r.text = s.withoutUnread.text
  have hstep (a b : Sentence) (ha : keeps a) (hab : a.reductionStep? ctx = some b) : keeps b := by
    obtain ⟨hb, htext⟩ := text_of_reductionStep? hctx ha.1 hab
    exact ⟨hb, htext.trans ha.2⟩
  have hstart : keeps s.withoutUnread := ⟨hread, rfl⟩
  exact (Repetition.run_induction hstep hstart).2

end Sentence

end ChatCommand

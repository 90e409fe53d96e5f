/-
Numbers beside each other.

Two numbers beside each other say one number, as the words "twenty five" do, unless the second is
written in digits. What is computed has the text of all it comes from, with spaces in it, and so is
not written in digits.

* `Sentence.Fuses`: the next reduction puts two numbers together in this way;
* `Phrase.IsWritten`, `Phrase.IsComputed`: numbers in digits, operators and brackets, and numbers
  that reduction has computed;
* `Sentence.fuses_iff`: when sentences of arithmetic fuse numbers;
* `Sentence.mem_or_isComputed_of_mem_reductions`: **every phrase on the way is a phrase of the
  sentence or has been computed**;
* `Sentence.fuses_iff_of_mem_reductions`: **numbers fuse exactly where the second has been
  computed**, and the two numbers say one together.
-/
import ChatCommand.Proofs.Arithmetic.Spelling
import ChatCommand.Proofs.Grammar.Outcomes

namespace ChatCommand

/-! ### Fusing -/

/-- The next reduction puts two numbers beside each other together as number words: the first redex
is one of the rule for these. -/
def Sentence.Fuses (ctx : Context) (s : Sentence) : Prop :=
  ∃ (r : Redex) (rule : Rule), r.IsFirst ctx s ∧ ctx.grammar.rules[r.place]? = some rule
    ∧ rule.id = "compound-number"

/-- There is one rule of this name. -/
lemma Grammar.eq_compound {r : Rule} (hr : r ∈ standardRules) (h : r.id = "compound-number") :
    r = Arithmetic.rules[0] := by
  simp only [standardRules, List.mem_append, Joining.rules, Arithmetic.rules, Times.rules,
    Filters.rules, List.mem_cons, List.not_mem_nil, or_false] at hr
  rcases hr with ((hr | hr) | hr) | hr
  · rcases hr with rfl | rfl | rfl | rfl | rfl | rfl | rfl | rfl <;> exact absurd h (by decide)
  · rcases hr with rfl | rfl | rfl | rfl
    · rfl
    all_goals exact absurd h (by decide)
  · rcases hr with rfl | rfl | rfl | rfl | rfl | rfl | rfl | rfl | rfl <;>
      exact absurd h (by decide)
  · rcases hr with rfl | rfl | rfl | rfl | rfl | rfl <;> exact absurd h (by decide)

namespace Sentence

variable {ctx : Context} {s : Sentence}

/-- Phrases that are words of arithmetic spell some words. -/
lemma exists_spells (hs : ∀ p ∈ s, ∃ word, p.Says word) : ∃ words, s.Spells words := by
  induction s with
  | nil => exact ⟨[], .nil⟩
  | cons p s ih =>
      obtain ⟨⟨word, hp⟩, hrest⟩ := List.forall_mem_cons.mp hs
      obtain ⟨words, hwords⟩ := ih hrest
      exact ⟨word :: words, .cons hp hwords⟩

/-- Rules that make something of arithmetic are rules of arithmetic. -/
lemma mem_arithmetic_of_token? {r : Rule} (hr : r ∈ Grammar.standardRules) {state : State}
    {window : Sentence} (hwindow : ∀ p ∈ window, ∃ word, p.Says word) {t : Token}
    (h : r.token? state window = some t) : r ∈ Arithmetic.rules := by
  obtain ⟨words, hspells⟩ := exists_spells hwindow
  have htier : ¬(r.tier = .joining ∨ r.tier = .general) := by
    intro htier
    rw [Rule.token?, Signature.bind?_eq_none_of_spells (Grammar.exists_isForeign hr htier) hspells]
      at h
    contradiction
  have hjoining : ∀ r ∈ Joining.rules, r.tier = .joining := by decide
  have htimes : ∀ r ∈ Times.rules, r.tier = .general := by decide
  have hfilters : ∀ r ∈ Filters.rules, r.tier = .general := by decide
  simp only [Grammar.standardRules, List.mem_append] at hr
  rcases hr with ((hr | hr) | hr) | hr
  · exact absurd (.inl (hjoining r hr)) htier
  · exact hr
  · exact absurd (.inr (htimes r hr)) htier
  · exact absurd (.inr (hfilters r hr)) htier

/-- The first redex in a sentence of arithmetic where the rule for number words applies is one of
this rule. -/
lemma eq_compound_of_isFirst (hctx : ctx.grammar = .standard) (hs : ∀ p ∈ s, ∃ word, p.Says word)
    {r r' : Redex} (hr : r.IsFirst ctx s) (hr' : r'.Applies ctx s) (htier : r'.tier = .firstOrder)
    (hcount : r'.count = 2) : ctx.grammar.rules[r.place]? = some Arithmetic.rules[0] := by
  obtain ⟨⟨token, -, rule, hrule, hruleTier, hruleCount, htoken⟩, hfirst⟩ := hr
  have hmem : rule ∈ Grammar.standardRules := by
    rw [hctx] at hrule
    exact List.mem_of_getElem? hrule
  have harithmetic := mem_arithmetic_of_token? hmem
    (fun p hp => hs p (List.mem_of_mem_drop (List.mem_of_mem_take hp))) htoken
  have hbefore : r.tier.index < 1 ∨ r.tier = .firstOrder ∧ r.count ≤ 2 := by
    rcases hfirst r' hr' with rfl | hprecedes
    · exact .inr ⟨htier, hcount.le⟩
    · rw [Redex.Precedes, htier, hcount] at hprecedes
      exact hprecedes.imp id fun h => ⟨h.1, by omega⟩
  rw [hrule]
  rw [← hruleTier, ← hruleCount] at hbefore
  simp only [Arithmetic.rules, List.mem_cons, List.not_mem_nil, or_false] at harithmetic
  rcases harithmetic with rfl | rfl | rfl | rfl
  · rfl
  all_goals exact absurd hbefore (by decide)

/-- Two neighbours in a sentence are a window of it. -/
lemma window_append_cons_cons (before : List Phrase) (p q : Phrase) (after : List Phrase) :
    window (before ++ p :: q :: after) before.length 2 = [p, q] := by
  rw [window, List.drop_left]
  rfl

/-- Two words of arithmetic that the rule for number words takes are numbers, the second of which is
not written in digits, and say one number together. -/
lemma exists_of_token?_compound {state : State} {left right : Phrase} {token : Token}
    (hleft : ∃ word, left.Says word) (hright : ∃ word, right.Says word)
    (h : Arithmetic.rules[0].token? state [left, right] = some token) :
    ∃ t u a b, left.tokens = [t] ∧ t.Says (.number a) ∧ right.tokens = [u] ∧ u.Says (.number b)
      ∧ Arithmetic.isWrittenInDigits u.text = false ∧ (Arithmetic.compound? a b).isSome := by
  obtain ⟨word, hleft⟩ := hleft
  obtain ⟨word', hright⟩ := hright
  by_cases hnumbers : word.isNumber ∧ word'.isNumber
  · match word, word', hnumbers with
    | .number a, .number b, _ =>
        obtain ⟨t, hleft, ht⟩ := hleft
        obtain ⟨u, hright, hu⟩ := hright
        rw [Arithmetic.token?_compound state hleft ht hright hu] at h
        split at h
        · contradiction
        · next hdigits =>
            obtain ⟨x, hx, -⟩ := Option.map_eq_some_iff.mp h
            exact ⟨t, u, a, b, hleft, ht, hright, hu, by simpa using hdigits, by rw [hx]; rfl⟩
  · rw [Arithmetic.token?_compound_eq_none state hleft hright hnumbers] at h
    contradiction

/-- A sentence of arithmetic fuses numbers exactly if two stand beside each other of which the
second is not written in digits, and which say one number together. -/
lemma fuses_iff (hctx : ctx.grammar = .standard) (hs : ∀ p ∈ s, ∃ word, p.Says word) :
    s.Fuses ctx ↔ ∃ before left right after t u a b, s = before ++ left :: right :: after
      ∧ left.tokens = [t] ∧ t.Says (.number a) ∧ right.tokens = [u] ∧ u.Says (.number b)
      ∧ Arithmetic.isWrittenInDigits u.text = false ∧ (Arithmetic.compound? a b).isSome := by
  constructor
  · rintro ⟨r, rule, ⟨⟨token, hfits, rule', hrule', -, harity, htoken⟩, -⟩, hrule, hid⟩
    obtain rfl : rule' = rule := Option.some.inj (hrule'.symm.trans hrule)
    have hmem : rule' ∈ Grammar.standardRules := by
      rw [hctx] at hrule
      exact List.mem_of_getElem? hrule
    obtain rfl := Grammar.eq_compound hmem hid
    have hcount : r.count = 2 := harity.symm
    rw [hcount] at hfits htoken
    obtain ⟨left, right, hwindow⟩ := List.length_eq_two.mp
      ((length_window s r.offset 2).trans (by omega))
    have hparts : s.take r.offset ++ left :: right :: s.drop (r.offset + 2) = s := by
      have h := s.take_append_window_append_drop r.offset 2
      rwa [hwindow, List.append_assoc] at h
    rw [hwindow] at htoken
    obtain ⟨t, u, a, b, hnumbers⟩ := exists_of_token?_compound
      (hs left (by rw [← hparts]; simp)) (hs right (by rw [← hparts]; simp)) htoken
    exact ⟨_, left, right, _, t, u, a, b, hparts.symm, hnumbers⟩
  · rintro ⟨before, left, right, after, t, u, a, b, rfl, hleft, ht, hright, hu, hdigits, hsome⟩
    obtain ⟨x, hx⟩ := Option.isSome_iff_exists.mp hsome
    have htoken : Arithmetic.rules[0].token? ctx.state [left, right]
        = some (Arithmetic.result { text := joinText [left, right], tokens := [t, u] } x) := by
      rw [Arithmetic.token?_compound ctx.state hleft ht hright hu, hdigits, hx]
      rfl
    -- the rule for number words applies to the two, so some redex comes first
    have hredex : Redex.Applies ctx (before ++ left :: right :: after)
        { tier := .firstOrder, count := 2, offset := before.length, place := 8 } := by
      rw [← window_append_cons_cons before left right after] at htoken
      exact ⟨_, by simp, Arithmetic.rules[0], by rw [hctx]; rfl, rfl, rfl, htoken⟩
    obtain ⟨r, hfirst⟩ := exists_isFirst hredex
    exact ⟨r, _, hfirst, eq_compound_of_isFirst hctx hs hfirst hredex rfl rfl, rfl⟩

end Sentence

/-! ### Numbers in digits -/

/-- The phrase is read as a number and written in digits, or as an operator or a bracket, and as
nothing else. -/
def Phrase.IsWritten (p : Phrase) : Prop :=
  ∃ t, p.tokens = [t] ∧
    ((∃ x, t.Says (.number x)) ∧ p.text ≠ "" ∧ Arithmetic.isWrittenInDigits t.text = true
      ∨ ∃ o, t.Says (.operator o))

/-- The phrase is a number that reduction has computed, and not written in digits. -/
def Phrase.IsComputed (p : Phrase) : Prop :=
  ∃ t x, p.tokens = [t] ∧ t.Says (.number x) ∧ p.text ≠ ""
    ∧ Arithmetic.isWrittenInDigits t.text = false

namespace Phrase

variable {p : Phrase}

lemma IsWritten.exists_word (h : p.IsWritten) : ∃ word, p.Says word := by
  obtain ⟨t, htokens, ⟨⟨x, hx⟩, -⟩ | ⟨o, ho⟩⟩ := h
  · exact ⟨.number x, t, htokens, hx⟩
  · exact ⟨.operator o, t, htokens, ho⟩

lemma IsComputed.exists_word (h : p.IsComputed) : ∃ word, p.Says word := by
  obtain ⟨t, x, htokens, hx, -⟩ := h
  exact ⟨.number x, t, htokens, hx⟩

/-- Numbers have a text, whether they are written or computed. -/
lemma text_ne_empty_of_number (h : p.IsWritten ∨ p.IsComputed) {t : Token} (ht : p.best? = some t)
    (hnumber : t.variant = .number) : p.text ≠ "" := by
  rcases h with ⟨u, htokens, ⟨-, htext, -⟩ | ⟨o, ho⟩⟩ | ⟨u, x, -, -, htext, -⟩
  · exact htext
  · obtain rfl : u = t := Option.some.inj ((best?_of_tokens htokens).symm.trans ht)
    have hoperator : u.variant = .arithmetic o := ho
    rw [hnumber] at hoperator
    contradiction
  · exact htext

lemma IsWritten.isWrittenInDigits (h : p.IsWritten) {t : Token} (ht : p.tokens = [t]) {x : Float}
    (hx : t.Says (.number x)) : Arithmetic.isWrittenInDigits t.text = true := by
  obtain ⟨u, hu, ⟨-, -, hdigits⟩ | ⟨o, ho⟩⟩ := h
  · obtain rfl : t = u := by simpa [ht] using hu
    exact hdigits
  · obtain rfl : t = u := by simpa [ht] using hu
    have hoperator : t.variant = .arithmetic o := ho
    rw [hx.1] at hoperator
    contradiction

end Phrase

/-- A rule of arithmetic takes a number that is not the last of its arguments. -/
lemma Arithmetic.exists_number_of_token? {r : Rule} (hr : r ∈ rules) {state : State}
    {window : List Phrase} {token : Token} (h : r.token? state window = some token) :
    ∃ front p q rest t, window = front ++ p :: q :: rest ∧ Phrase.best? p = some t
      ∧ t.variant = .number := by
  obtain ⟨b, hb, -⟩ := Option.bind_eq_some_iff.mp h
  obtain ⟨-, -, best, hbest, -, hargs⟩ := Signature.bind?_eq_some_iff.mp hb
  have haccepts := Signature.accepts_of_bind? hb
  have horder : ∀ r ∈ rules, r.signature.anyOrder = false := by decide
  rw [horder r hr, if_neg Bool.false_ne_true] at hargs
  rw [hargs.2] at haccepts
  obtain ⟨k, hk, hlast⟩ : ∃ k, r.signature.parameters[k]? = some (.only .number)
      ∧ k + 1 < r.signature.parameters.length := by
    simp only [rules, List.mem_cons, List.not_mem_nil, or_false] at hr
    rcases hr with rfl | rfl | rfl | rfl
    · exact ⟨0, rfl, by decide⟩
    · exact ⟨1, rfl, by decide⟩
    · exact ⟨0, rfl, by decide⟩
    · exact ⟨0, rfl, by decide⟩
  have hlength : best.length = r.signature.parameters.length := haccepts.length_eq.symm
  have hwindow : window.length = best.length := hbest.length_eq
  have hsplit : window = window.take k
      ++ window[k] :: window[k + 1] :: window.drop (k + 2) := by
    rw [← List.drop_eq_getElem_cons, ← List.drop_eq_getElem_cons, List.take_append_drop]
  have hnumber := haccepts.get (i := k) (by omega) (by omega)
  simp only [List.get_eq_getElem] at hnumber
  rw [(List.getElem?_eq_some_iff.mp hk).2, Signature.accepts_only, decide_eq_true_eq] at hnumber
  exact ⟨_, _, _, _, _, hsplit, hbest.get (by omega) (by omega), hnumber.symm⟩

namespace Sentence

variable {ctx : Context} {s : Sentence}

/-- What a rule makes of written and computed arithmetic is computed. -/
lemma isComputed_of_token? {r : Rule} (hr : r ∈ Grammar.standardRules) {state : State}
    {window : Sentence} (hwindow : ∀ p ∈ window, p.IsWritten ∨ p.IsComputed) {t : Token}
    (h : r.token? state window = some t) : (Phrase.ofToken (joinText window) t).IsComputed := by
  have harithmetic := mem_arithmetic_of_token? hr
    (fun p hp => (hwindow p hp).elim Phrase.IsWritten.exists_word Phrase.IsComputed.exists_word) h
  obtain ⟨front, p, q, rest, u, rfl, hu, hnumber⟩ :=
    Arithmetic.exists_number_of_token? harithmetic h
  have htext : p.text ≠ "" := Phrase.text_ne_empty_of_number (hwindow p (by simp)) hu hnumber
  have hdigits := Arithmetic.isWrittenInDigits_joinText front htext (q := q) rest
  obtain ⟨b, hb, houtcome⟩ := Option.bind_eq_some_iff.mp h
  obtain ⟨x, rfl⟩ := Arithmetic.exists_eq_result harithmetic houtcome
  have hbtext := (Signature.bind?_eq_some_iff.mp hb).2.1
  refine ⟨_, x, rfl, ⟨rfl, rfl⟩, ?_, ?_⟩
  · intro hempty
    have hjoined : joinText (front ++ p :: q :: rest) = "" := hempty
    rw [hjoined] at hdigits
    contradiction
  · rw [← hbtext] at hdigits
    exact hdigits

/-- **Every phrase on the way is a phrase of the sentence or has been computed.** -/
theorem mem_or_isComputed_of_mem_reductions (hctx : ctx.grammar = .standard)
    (hs : ∀ p ∈ s, p.IsWritten) :
    ∀ t ∈ s.reductions ctx, ∀ p ∈ t, p ∈ s ∨ p.IsComputed := by
  refine reductions_induction (fun t t' ht hstep => ?_) fun p hp => .inl (List.mem_of_mem_filter hp)
  obtain ⟨before, window, after, r, token, rfl, hr, -, htoken, rfl⟩ :=
    exists_of_reductionStep? hstep
  rw [hctx] at hr
  have hwindow : ∀ p ∈ window, p.IsWritten ∨ p.IsComputed := fun p hp =>
    (ht p (by simp [hp])).imp_left (hs p)
  exact forall_mem_replace ht (.inr (isComputed_of_token? hr hwindow htoken))

/-- **Of numbers in digits none is fused with the one before it.** At any time of the reduction, the
next step fuses two numbers exactly if they stand beside each other, the second of them is no phrase
of the sentence but has been computed, and they say one number together. -/
theorem fuses_iff_of_mem_reductions (hctx : ctx.grammar = .standard) (hs : ∀ p ∈ s, p.IsWritten)
    {t : Sentence} (ht : t ∈ s.reductions ctx) :
    t.Fuses ctx ↔ ∃ before left right after a b, t = before ++ left :: right :: after ∧ right ∉ s
      ∧ left.Says (.number a) ∧ right.Says (.number b) ∧ (Arithmetic.compound? a b).isSome := by
  have horigin := mem_or_isComputed_of_mem_reductions hctx hs t ht
  have hsays : ∀ p ∈ t, ∃ word, p.Says word := fun p hp =>
    (horigin p hp).elim (fun hmem => (hs p hmem).exists_word) Phrase.IsComputed.exists_word
  rw [fuses_iff hctx hsays]
  constructor
  · rintro ⟨before, left, right, after, u, v, a, b, rfl, hleft, hu, hright, hv, hdigits, hsome⟩
    have hmem : right ∉ s := by
      intro hmem
      rw [(hs right hmem).isWrittenInDigits hright hv] at hdigits
      contradiction
    exact ⟨before, left, right, after, a, b, rfl, hmem, ⟨u, hleft, hu⟩, ⟨v, hright, hv⟩, hsome⟩
  · rintro ⟨before, left, right, after, a, b, rfl, hmem, ⟨u, hleft, hu⟩, ⟨v, hright, hv⟩, hsome⟩
    refine ⟨before, left, right, after, u, v, a, b, rfl, hleft, hu, hright, hv, ?_, hsome⟩
    obtain ⟨v', -, hright', -, -, hdigits⟩ := (horigin right (by simp)).resolve_left hmem
    obtain rfl : v = v' := by simpa [hright] using hright'
    exact hdigits

/-- Two numbers in digits stay apart where they stand. -/
theorem not_fuses_digits :
    ¬Fuses .bare [Piece.phrase "20" (.number 20), Piece.phrase "3" (.number 3)] := by
  let s : Sentence := [Piece.phrase "20" (.number 20), Piece.phrase "3" (.number 3)]
  have hs : ∀ p ∈ s, p.IsWritten := by
    refine List.forall_mem_cons.mpr ⟨?_, List.forall_mem_singleton.mpr ?_⟩
    · exact ⟨_, rfl, .inl ⟨⟨20, rfl, rfl⟩, by decide, by decide⟩⟩
    · exact ⟨_, rfl, .inl ⟨⟨3, rfl, rfl⟩, by decide, by decide⟩⟩
  have hstart : s ∈ s.reductions .bare := List.mem_of_head? (Repetition.head?_trail _ _ _)
  refine (fuses_iff_of_mem_reductions rfl hs hstart).not.mpr ?_
  rintro ⟨before, left, right, after, -, -, hparts, hmem, -⟩
  exact hmem (by rw [hparts]; simp)

/-- A number in brackets is fused with the number before them, once the brackets are gone. -/
theorem exists_fuses_brackets :
    let s : Sentence := [Piece.phrase "20" (.number 20),
      Piece.phrase "(" (.operator .openParenthesis), Piece.phrase "3" (.number 3),
      Piece.phrase ")" (.operator .closeParenthesis)]
    (∀ p ∈ s, p.IsWritten) ∧ (∃ t ∈ s.reductions .bare, t.Fuses .bare)
      ∧ (s.reduce .bare).sentence.number? = some 23 := by
  intro s
  let inner : Sentence := s.drop 1
  let arguments : List Token := inner.filterMap Phrase.best?
  let t : Sentence := [Piece.phrase "20" (.number 20), .ofToken (joinText inner)
    (Arithmetic.result { text := joinText inner, tokens := arguments } 3)]
  have hs : ∀ p ∈ s, p.IsWritten := by
    refine List.forall_mem_cons.mpr ⟨?_, List.forall_mem_cons.mpr ⟨?_,
      List.forall_mem_cons.mpr ⟨?_, List.forall_mem_singleton.mpr ?_⟩⟩⟩
    · exact ⟨_, rfl, .inl ⟨⟨20, rfl, rfl⟩, by decide, by decide⟩⟩
    · exact ⟨_, rfl, .inr ⟨.openParenthesis, rfl⟩⟩
    · exact ⟨_, rfl, .inl ⟨⟨3, rfl, rfl⟩, by decide, by decide⟩⟩
    · exact ⟨_, rfl, .inr ⟨.closeParenthesis, rfl⟩⟩
  have htrail : s.reductions .bare = s :: Repetition.trail (reductionStep? .bare) 511 t := rfl
  have ht : t ∈ s.reductions .bare := by
    rw [htrail]
    exact List.mem_cons_of_mem _ (List.mem_of_head? (Repetition.head?_trail _ _ _))
  have hsays : ∀ p ∈ t, ∃ word, p.Says word :=
    List.forall_mem_cons.mpr ⟨⟨.number 20, _, rfl, rfl, rfl⟩,
      List.forall_mem_singleton.mpr ⟨.number 3, Phrase.says_ofToken _ _ _⟩⟩
  refine ⟨hs, ⟨t, ht, (fuses_iff rfl hsays).mpr ?_⟩, by decide +kernel⟩
  exact ⟨[], _, _, [], _, _, 20, 3, rfl, rfl, ⟨rfl, rfl⟩, rfl, ⟨rfl, rfl⟩, by decide,
    by decide +kernel⟩

end Sentence

end ChatCommand

/-
How reduction by the standard grammar finds a rule.

* `Signature.bind?_inOrder`: a rule that takes its arguments in their order is given the preferred
  readings of the window, if each parameter takes the one in its place;
* `Rule.token?_inOrder`: what it then makes of the window;
* `Rule.token?_eq_none_of_length`: a rule takes as many phrases as it has parameters;
* `Signature.canTake`, `Rule.token?_eq_none_of_variants`: a rule that has a parameter for something
  else takes no phrases;
* `Grammar.searches`: the rules that can take some variants, in the order of the search;
* `Sentence.HasVariants`: sentences of phrases with one reading each, of few variants;
* `Sentence.reductionStep?_standard`: the search goes by tier and by the number of phrases, each
  time along the sentence;
* `Sentence.reductionStep?_of_variants`: in a sentence of few variants it goes through the rules for
  these.
-/
import ChatCommand.Grammar.Standard
import ChatCommand.Proofs.Sentence.Redexes
import ChatCommand.Proofs.Sentence.TokenInvariant
import ChatCommand.Proofs.Sentence.Windows

namespace ChatCommand

/-! ### Rules and windows -/

/-- However strictly types are matched, the class of one variant takes that variant. -/
lemma Signature.accepts_only (s : Signature) (variant : TokenVariant) (t : Token) :
    s.accepts (.only variant) t = decide (variant = t.variant) := by
  rw [accepts]
  split
  · simp [TokenClass.isExactly]
  · rw [Bool.eq_iff_iff, TokenClass.contains_only_iff, decide_eq_true_eq]

/-- The preferred readings of as many phrases as there are parameters are the arguments of a rule
that takes them in their order. -/
lemma Signature.bind?_inOrder {s : Signature} (horder : s.anyOrder = false) {best : List Token}
    (hcompatible : (s.compatible && !pairwiseCompatible best) = false) {window : List Phrase}
    (hbest : List.Forall₂ (fun p t => Phrase.best? p = some t) window best)
    (hlength : best.length = s.parameters.length) :
    s.bind? window =
      if s.acceptsInOrder best then some { text := joinText window, tokens := best } else none := by
  have harity : window.length = s.arity := hbest.length_eq.trans hlength
  simp only [bind?, harity, ne_eq, not_true_eq_false, if_false, mapM_best?_eq_some_iff.mpr hbest,
    horder, hcompatible, Bool.false_eq_true, Option.bind_eq_bind, Option.bind_some]
  cases s.acceptsInOrder best <;> rfl

lemma Phrase.best?_of_tokens {p : Phrase} {t : Token} (h : p.tokens = [t]) : p.best? = some t := by
  rw [best?, h]
  rfl

/-- What a rule that takes its arguments in their order makes of phrases with one reading each is
what it makes of these readings, if each parameter takes the one in its place. -/
lemma Rule.token?_inOrder {r : Rule} (state : State) (horder : r.signature.anyOrder = false)
    {window : List Phrase} {best : List Token}
    (hcompatible : (r.signature.compatible && !Signature.pairwiseCompatible best) = false)
    (htokens : List.Forall₂ (fun p t => Phrase.tokens p = [t]) window best)
    (hlength : best.length = r.arity) :
    r.token? state window =
      if r.signature.acceptsInOrder best then
        r.outcome state { text := joinText window, tokens := best }
      else none := by
  have hbest := htokens.imp fun _ _ => Phrase.best?_of_tokens
  rw [token?, Signature.bind?_inOrder horder hcompatible hbest hlength]
  cases r.signature.acceptsInOrder best <;> rfl

/-- A rule takes as many phrases as it has parameters. -/
lemma Rule.token?_eq_none_of_length {r : Rule} {state : State} {window : List Phrase}
    (h : window.length ≠ r.arity) : r.token? state window = none := by
  by_contra hne
  obtain ⟨_, htoken⟩ := Option.ne_none_iff_exists'.mp hne
  obtain ⟨_, hb, -⟩ := Option.bind_eq_some_iff.mp htoken
  exact h (Signature.bind?_eq_some_iff.mp hb).1

/-- Whether each parameter takes one of these variants. -/
def Signature.canTake (s : Signature) (variants : List TokenVariant) : Bool :=
  s.parameters.all fun c => variants.any c.contains

/-- The rules that can take phrases of these variants, with the number of phrases that they take, in
the order of the search. -/
def Grammar.searches (variants : List TokenVariant) : List (List Rule × Nat) :=
  ([(Tier.joining, 2), (.joining, 3), (.firstOrder, 2), (.firstOrder, 3), (.secondOrder, 3),
      (.thirdOrder, 3), (.general, 2), (.general, 3)].map fun (tier, count) =>
        ((standard.rulesOf tier count).filter (·.signature.canTake variants), count)).filter
    fun search => !search.1.isEmpty

/-- A rule with a parameter for something else takes no phrases of these variants. -/
lemma Rule.token?_eq_none_of_variants {r : Rule} {variants : List TokenVariant}
    (hr : r.signature.canTake variants = false) {window : List Phrase}
    (hwindow : ∀ p ∈ window, ∀ t ∈ p.tokens, t.variant ∈ variants) (state : State) :
    r.token? state window = none := by
  obtain ⟨c, hc, hnone⟩ := List.all_eq_false.mp hr
  have hforeign : r.signature.bind? window = none := by
    refine Signature.bind?_eq_none_of_not_contains hc fun p hp t ht => ?_
    by_contra hcontains
    exact hnone (List.any_eq_true.mpr
      ⟨t.variant, hwindow p hp t ht, by simpa using hcontains⟩)
  rw [token?, hforeign]
  rfl

/-! ### The search -/

namespace Sentence

/-- Where something has been read in every phrase, no phrase is left out. -/
lemma withoutUnread_eq_self {s : Sentence} (hs : ∀ p ∈ s, ∃ t, p.tokens = [t]) :
    s.withoutUnread = s := by
  refine List.filter_eq_self.mpr fun p hp => ?_
  obtain ⟨t, ht⟩ := hs p hp
  simp [Phrase.isUnread, ht]

/-- Each phrase has one reading, which is of one of these variants. -/
def HasVariants (s : Sentence) (variants : List TokenVariant) : Prop :=
  ∀ p ∈ s, ∃ t, p.tokens = [t] ∧ t.variant ∈ variants

lemma HasVariants.withoutUnread {s : Sentence} {variants : List TokenVariant}
    (hs : s.HasVariants variants) : s.withoutUnread = s :=
  withoutUnread_eq_self fun p hp => (hs p hp).imp fun _ => And.left

/-- Rules that take no neighbours may be left out. -/
lemma applyFirst?_filter {state : State} {rules : List Rule} {keep : Rule → Bool} {count : Nat}
    {s : Sentence}
    (h : ∀ r ∈ rules, keep r = false → ∀ offset, r.token? state (s.window offset count) = none) :
    applyFirst? state (rules.filter keep) count s = applyFirst? state rules count s := by
  induction s with
  | nil => rfl
  | cons p s ih =>
      have hhead := findSome?_filter_eq fun r hr hkeep => h r hr hkeep 0
      have hwindow : window (p :: s) 0 count = (p :: s).take count := rfl
      rw [hwindow] at hhead
      rw [applyFirst?, applyFirst?, hhead, ih fun r hr hkeep offset => h r hr hkeep (offset + 1)]

/-- The search for a reduction, by tier and by the number of phrases. -/
lemma reductionStep?_standard {ctx : Context} (hctx : ctx.grammar = .standard) (s : Sentence) :
    s.reductionStep? ctx =
      [(Tier.joining, 2), (.joining, 3), (.firstOrder, 2), (.firstOrder, 3), (.secondOrder, 3),
        (.thirdOrder, 3), (.general, 2), (.general, 3)].findSome? fun (tier, count) =>
          applyFirst? ctx.state (Grammar.standard.rulesOf tier count) count s := by
  have hplaces : (Tier.all.flatMap fun tier => (ctx.grammar.windowLengths tier).map (tier, ·))
      = [(Tier.joining, 2), (.joining, 3), (.firstOrder, 2), (.firstOrder, 3), (.secondOrder, 3),
        (.thirdOrder, 3), (.general, 2), (.general, 3)] := by
    rw [hctx]
    rfl
  have hsearch : s.reductionStep? ctx
      = (Tier.all.flatMap fun tier => (ctx.grammar.windowLengths tier).map (tier, ·)).findSome?
          fun place => (s.reductionBy? ctx place.1 place.2).map s.splice := by
    simp only [reductionStep?, findReduction?, List.map_findSome?, findSome?_flatMap,
      List.findSome?_map, Function.comp_def]
  have hby (tier : Tier) (count : Nat) (h0 : 0 < count) :
      (s.reductionBy? ctx tier count).map s.splice
        = applyFirst? ctx.state (Grammar.standard.rulesOf tier count) count s := by
    rw [map_splice_reductionBy? ctx s tier h0, hctx]
  rw [hsearch, hplaces]
  simp (disch := omega) only [List.findSome?_cons, List.findSome?_nil, hby]

/-- In a sentence of few variants the search goes through the rules for these. -/
lemma reductionStep?_of_variants {ctx : Context} (hctx : ctx.grammar = .standard) {s : Sentence}
    {variants : List TokenVariant} (hs : s.HasVariants variants) :
    s.reductionStep? ctx = (Grammar.searches variants).findSome? fun (rules, count) =>
      applyFirst? ctx.state rules count s := by
  have hreadings : ∀ p ∈ s, ∀ t ∈ p.tokens, t.variant ∈ variants := by
    intro p hp t ht
    obtain ⟨u, htokens, hvariant⟩ := hs p hp
    obtain rfl : t = u := by simpa [htokens] using ht
    exact hvariant
  have hkept (tier : Tier) (count : Nat) :
      applyFirst? ctx.state (Grammar.standard.rulesOf tier count) count s
        = applyFirst? ctx.state ((Grammar.standard.rulesOf tier count).filter
            (·.signature.canTake variants)) count s := by
    refine (applyFirst?_filter fun r _ hr offset => ?_).symm
    refine Rule.token?_eq_none_of_variants hr (fun p hp => hreadings p ?_) ctx.state
    exact List.mem_of_mem_drop (List.mem_of_mem_take hp)
  have hempty (search : List Rule × Nat) (hsearch : (!search.1.isEmpty) = false) :
      applyFirst? ctx.state search.1 search.2 s = none := by
    have hrules : search.1 = [] := by simpa using hsearch
    rw [hrules]
    exact applyFirst?_eq_none fun _ => rfl
  rw [reductionStep?_standard hctx, Grammar.searches,
    findSome?_filter_eq fun search _ => hempty search, List.findSome?_map]
  exact congrArg (List.findSome? · _) (funext fun (tier, count) => hkept tier count)

end Sentence

end ChatCommand

/-
Properties of tokens that hold in every sentence on the way to a match.

* `Sentence.AllTokens`: every reading of every phrase has the property;
* `Context.Keeps`: reading makes only tokens with the property, and the rules make such tokens of
  such tokens;
* `Signature.bind?_eq_some_iff`: when a window gives arguments to a rule;
* `Signature.accepts_of_bind?`, `Signature.mem_of_bind?`: the arguments are taken by the parameters
  and are readings of the phrases;
* `Signature.bind?_eq_none_of_not_contains`: a window gives no arguments to a rule with a parameter
  for what is not there;
* `allTokens_readStages`, `allTokens_reduce`: what a context keeps holds after all stages, and
  after any reduction, also where the budget ends it.
-/
import Mathlib.Data.List.Forall2
import ChatCommand.Proofs.Sentence.History
import ChatCommand.Proofs.Sentence.Steps

namespace ChatCommand

variable {I : Token → Prop}

/-- Every reading of the phrase has the property. -/
def Phrase.AllTokens (I : Token → Prop) (p : Phrase) : Prop :=
  ∀ t ∈ p.tokens, I t

/-- Every reading of every phrase has the property. -/
def Sentence.AllTokens (I : Token → Prop) (s : Sentence) : Prop :=
  ∀ p ∈ s, p.AllTokens I

/-- The rule makes tokens with the property of phrases with the property. -/
def Rule.Keeps (r : Rule) (state : State) (I : Token → Prop) : Prop :=
  ∀ window t, Sentence.AllTokens I window → r.token? state window = some t → I t

/-- Reading makes only tokens with the property, and the rules keep it. -/
structure Context.Keeps (ctx : Context) (I : Token → Prop) : Prop where
  read : ∀ stage text, ∀ t ∈ ctx.tokensFor stage text, I t
  rule : ∀ r ∈ ctx.grammar.rules, r.Keeps ctx.state I

/-! ### Arguments -/

/-- The preferred readings of some phrases, one for each. -/
lemma mapM_best?_eq_some_iff {window : List Phrase} {best : List Token} :
    window.mapM Phrase.best? = some best ↔
      List.Forall₂ (fun p t => Phrase.best? p = some t) window best := by
  induction window generalizing best with
  | nil => simp [List.forall₂_nil_left_iff, @eq_comm _ _ best]
  | cons p window ih =>
      simp only [List.mapM_cons, Option.bind_eq_bind, Option.bind_eq_some_iff, Option.pure_def,
        Option.some.injEq]
      constructor
      · rintro ⟨t, ht, rest, hrest, rfl⟩
        exact .cons ht (ih.mp hrest)
      · rintro (_ | ⟨ht, hrest⟩)
        exact ⟨_, ht, _, ih.mpr hrest, rfl⟩

/-- In lists that are related element by element, each element has one that it is related to. -/
lemma exists_mem_of_forall₂ {α β : Type} {r : α → β → Prop} {as : List α} {bs : List β}
    (h : List.Forall₂ r as bs) : ∀ a ∈ as, ∃ b ∈ bs, r a b := by
  induction h with
  | nil => simp
  | cons hab _ ih =>
      intro a ha
      rcases List.mem_cons.mp ha with rfl | ha
      · exact ⟨_, List.mem_cons_self, hab⟩
      · obtain ⟨b, hb, hr⟩ := ih a ha
        exact ⟨b, List.mem_cons_of_mem _ hb, hr⟩

/-- Each preferred reading is that of some phrase. -/
lemma exists_mem_of_mem_best {window : List Phrase} {best : List Token}
    (h : List.Forall₂ (fun p t => Phrase.best? p = some t) window best) :
    ∀ t ∈ best, ∃ p ∈ window, t ∈ p.tokens := by
  intro t ht
  obtain ⟨p, hp, hpt⟩ := exists_mem_of_forall₂ (List.Forall₂.flip h) t ht
  exact ⟨p, hp, List.mem_of_mem_head? hpt⟩

namespace Signature

/-- A window gives arguments if there is a phrase for each parameter, each has a preferred reading,
and these are compatible where they must be and accepted in their order or in some order. -/
lemma bind?_eq_some_iff {s : Signature} {window : List Phrase} {b : Binding} :
    s.bind? window = some b ↔
      window.length = s.arity ∧ b.text = joinText window ∧
        ∃ best, List.Forall₂ (fun p t => Phrase.best? p = some t) window best ∧
          (s.compatible = true → pairwiseCompatible best = true) ∧
          if s.anyOrder then s.assign? s.parameters best = some b.tokens
          else s.acceptsInOrder best = true ∧ b.tokens = best := by
  obtain ⟨text, tokens⟩ := b
  have hargs (found : Option (List Token)) :
      (found.bind fun args => some { text := joinText window, tokens := args : Binding })
          = some { text, tokens } ↔ text = joinText window ∧ found = some tokens := by
    cases found <;> simp [@eq_comm _ text]
  by_cases hlen : window.length = s.arity
  · simp only [bind?, ne_eq, hlen, not_true_eq_false, if_false, Option.bind_eq_bind,
      Option.bind_eq_some_iff, ← mapM_best?_eq_some_iff, true_and]
    rw [← exists_and_left]
    refine exists_congr fun best => ?_
    cases s.compatible <;> cases pairwiseCompatible best <;> cases s.anyOrder <;>
      cases s.acceptsInOrder best <;> simp [hargs, @eq_comm _ text, @eq_comm _ best, and_left_comm]
  · simp [bind?, hlen]

lemma mem_of_assign? {s : Signature} {parameters : List TokenClass} {tokens args : List Token}
    (h : s.assign? parameters tokens = some args) : ∀ t ∈ args, t ∈ tokens := by
  induction parameters generalizing tokens args with
  | nil =>
      simp only [assign?, Option.some.injEq] at h
      simp [← h]
  | cons parameter parameters ih =>
      simp only [assign?, Option.bind_eq_bind, Option.bind_eq_some_iff, Option.some.injEq] at h
      obtain ⟨⟨u, left⟩, hu, others, hothers, rfl⟩ := h
      have hperm := perm_of_takeFirst? hu
      intro t ht
      rcases List.mem_cons.mp ht with rfl | ht
      · exact hperm.symm.subset List.mem_cons_self
      · exact hperm.symm.subset (List.mem_cons_of_mem _ (ih hothers t ht))

lemma accepts_of_assign? {s : Signature} {parameters : List TokenClass} {tokens args : List Token}
    (h : s.assign? parameters tokens = some args) :
    List.Forall₂ (fun parameter t => s.accepts parameter t = true) parameters args := by
  induction parameters generalizing tokens args with
  | nil =>
      simp only [assign?, Option.some.injEq] at h
      rw [← h]
      exact .nil
  | cons parameter parameters ih =>
      simp only [assign?, Option.bind_eq_bind, Option.bind_eq_some_iff, Option.some.injEq] at h
      obtain ⟨⟨u, left⟩, hu, others, hothers, rfl⟩ := h
      exact .cons (accepts_of_takeFirst? hu) (ih hothers)

/-- Each parameter of a rule takes its argument. -/
lemma accepts_of_bind? {s : Signature} {window : List Phrase} {b : Binding}
    (h : s.bind? window = some b) :
    List.Forall₂ (fun parameter t => s.accepts parameter t = true) s.parameters b.tokens := by
  obtain ⟨hlength, -, best, hbest, -, hargs⟩ := bind?_eq_some_iff.mp h
  split at hargs
  · exact accepts_of_assign? hargs
  · obtain ⟨haccepts, rfl⟩ := hargs
    refine List.forall₂_iff_zip.mpr ⟨?_, fun {parameter t} hmem => ?_⟩
    · rw [← hbest.length_eq, hlength]
      rfl
    · exact List.all_eq_true.mp haccepts (parameter, t) hmem

/-- A parameter takes tokens of its class alone. -/
lemma contains_of_accepts {s : Signature} {c : TokenClass} {t : Token}
    (h : s.accepts c t = true) : c.contains t.variant = true := by
  rw [accepts] at h
  split at h
  · rw [TokenClass.isExactly_iff.mp h]
    exact TokenClass.contains_only t.variant
  · exact h

/-- Arguments of a rule are readings of the phrases of its window. -/
lemma mem_of_bind? {s : Signature} {window : List Phrase} {b : Binding}
    (h : s.bind? window = some b) : ∀ t ∈ b.tokens, ∃ p ∈ window, t ∈ p.tokens := by
  obtain ⟨-, -, best, hbest, -, hargs⟩ := bind?_eq_some_iff.mp h
  have hmem : ∀ t ∈ b.tokens, t ∈ best := by
    split at hargs
    · exact mem_of_assign? hargs
    · rw [hargs.2]
      exact fun t ht => ht
  exact fun t ht => exists_mem_of_mem_best hbest t (hmem t ht)

/-- A rule with a parameter for what is not there takes no window. -/
lemma bind?_eq_none_of_not_contains {s : Signature} {window : List Phrase} {c : TokenClass}
    (hc : c ∈ s.parameters) (h : ∀ p ∈ window, ∀ t ∈ p.tokens, c.contains t.variant = false) :
    s.bind? window = none := by
  by_contra hne
  obtain ⟨b, hb⟩ := Option.ne_none_iff_exists'.mp hne
  obtain ⟨t, ht, haccepts⟩ := exists_mem_of_forall₂ (accepts_of_bind? hb) c hc
  obtain ⟨p, hp, htp⟩ := mem_of_bind? hb t ht
  have hcontains := contains_of_accepts haccepts
  rw [h p hp t htp] at hcontains
  contradiction

end Signature

/-- What the rule makes of readings with the property is what it makes of arguments with it. -/
lemma Rule.keeps_of_outcome {r : Rule} {state : State}
    (h : ∀ b t, (∀ u ∈ b.tokens, I u) → r.outcome state b = some t → I t) :
    r.Keeps state I := by
  intro window t hwindow ht
  obtain ⟨b, hb, hbt⟩ := Option.bind_eq_some_iff.mp ht
  refine h b t (fun u hu => ?_) hbt
  obtain ⟨p, hp, hup⟩ := Signature.mem_of_bind? hb u hu
  exact hwindow p hp u hup

/-! ### Reading and merging -/

namespace Sentence

lemma allTokens_ofWords (words : List String) : (ofWords words).AllTokens I := by
  intro p hp
  obtain ⟨word, -, rfl⟩ := List.mem_map.mp hp
  simp [Phrase.AllTokens]

lemma AllTokens.withoutUnread {s : Sentence} (hs : s.AllTokens I) :
    s.withoutUnread.AllTokens I :=
  fun p hp => hs p (List.mem_of_mem_filter hp)

end Sentence

section Reading

variable {ctx : Context}

lemma Context.Keeps.readPhrase (hctx : ctx.Keeps I) {p : Phrase} (hp : p.AllTokens I)
    (stage : Stage) : (ctx.readPhrase p stage).AllTokens I := by
  intro t ht
  rcases Phrase.mem_of_mem_extend ht with ht | ht
  · exact hp t ht
  · exact hctx.read stage p.text t ht

lemma Context.Keeps.tokenizeText (hctx : ctx.Keeps I) (through : Stage) (text : String) :
    (ctx.tokenizeText through text).AllTokens I := by
  have key (stages : List Stage) (p : Phrase) (hp : p.AllTokens I) :
      (stages.foldl ctx.readPhrase p).AllTokens I := by
    induction stages generalizing p with
    | nil => exact hp
    | cons stage stages ih => exact ih _ (hctx.readPhrase hp stage)
  exact key _ _ (by simp [Phrase.AllTokens])

namespace Sentence

lemma allTokens_tokenize (hctx : ctx.Keeps I) {s : Sentence} (hs : s.AllTokens I)
    (stage : Stage) : (s.tokenize ctx stage).AllTokens I := by
  intro p hp
  obtain ⟨q, hq, rfl⟩ := List.mem_map.mp hp
  exact hctx.readPhrase (hs q hq) stage

/-- One merge puts a phrase that was read from its text in the place of others. -/
lemma allTokens_mergeStep? (hctx : ctx.Keeps I) {stage : Stage} {s s' : Sentence}
    (hs : s.AllTokens I) (h : s.mergeStep? ctx stage = some s') : s'.AllTokens I := by
  obtain ⟨before, window, after, merged, rfl, -, hmerged, rfl⟩ := exists_of_mergeStep? h
  obtain ⟨rfl, -⟩ := Context.merge?_eq_some_iff.mp hmerged
  exact forall_mem_replace hs (hctx.tokenizeText stage _)

/-- After all stages, and where a stage stopped, every token has the property. -/
theorem allTokens_readStages (hctx : ctx.Keeps I) {s : Sentence} (hs : s.AllTokens I) :
    (s.readStages ctx).sentence.AllTokens I :=
  readStages_invariant (fun stage _ hs => allTokens_tokenize hctx hs stage)
    (fun _ _ _ hs h => allTokens_mergeStep? hctx hs h) hs

/-! ### Reduction -/

/-- A phrase with the token of a rule may come in the place of those it was made of. -/
lemma AllTokens.replace (hctx : ctx.Keeps I) {before window after : Sentence}
    (hs : AllTokens I (before ++ (window ++ after))) {r : Rule} (hr : r ∈ ctx.grammar.rules)
    {t : Token} (ht : r.token? ctx.state window = some t) :
    AllTokens I (before ++ .ofToken (joinText window) t :: after) := by
  refine forall_mem_replace hs fun u hu => ?_
  rw [List.mem_singleton.mp hu]
  exact hctx.rule r hr window t (fun p hp => hs p (by simp [hp])) ht

/-- One reduction puts a phrase with the token of a rule in the place of others. -/
lemma allTokens_reductionStep? (hctx : ctx.Keeps I) {s s' : Sentence} (hs : s.AllTokens I)
    (h : s.reductionStep? ctx = some s') : s'.AllTokens I := by
  obtain ⟨before, window, after, r, t, rfl, hr, -, ht, rfl⟩ := exists_of_reductionStep? h
  exact hs.replace hctx hr ht

/-- Reduction keeps the property, also where the budget ends it. -/
theorem allTokens_reduce (hctx : ctx.Keeps I) {s : Sentence} (hs : s.AllTokens I) :
    (s.reduce ctx).sentence.AllTokens I :=
  Repetition.run_induction (fun _ _ ha hab => allTokens_reductionStep? hctx ha hab)
    hs.withoutUnread

end Sentence

end Reading

end ChatCommand

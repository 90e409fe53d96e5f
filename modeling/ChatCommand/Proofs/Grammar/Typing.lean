/-
Rules that keep tokens well typed.

* `Value.kind?_union?`, `Value.kind?_narrow?`: things are only joined with things of their kind;
* `Joining.wellTyped_outcome`, `Filters.wellTyped_outcome`: what the rules make of well typed
  tokens;
* `Rule.keeps_wellTyped`: **every rule of the grammar makes well typed tokens of well typed ones**;
* `Binding.withValue`, `Rule.LooksAtPromises`: arguments with another value, and rules that look at
  no value but promised ones and those of properties they ask for;
* `Rule.looksAtPromises_of_mem`: every rule of the grammar is such a rule;
* `Rule.isProvided_of_bind?`: **no rule of the grammar misses a value in well typed phrases**.
-/
import ChatCommand.Proofs.Grammar.Outcomes
import ChatCommand.Proofs.Sentence.TokenInvariant
import ChatCommand.Proofs.Token.Typing

namespace ChatCommand

/-! ### Values -/

namespace Value

variable {v w both : Value}

/-- Things are united with things of their kind. -/
lemma kind?_union? (h : v.union? w = some both) : both.kind? = v.kind? ∧ v.kind?.isSome := by
  cases v <;> cases w <;> simp only [union?, Option.some.injEq, reduceCtorEq] at h <;> subst h <;>
    exact ⟨rfl, rfl⟩

/-- Things are among things of their kind. -/
lemma kind?_of_isSubset (h : v.isSubset w = true) : v.kind? = w.kind? ∧ v.kind?.isSome := by
  cases v <;> cases w <;> simp only [isSubset, Bool.false_eq_true] at h <;> exact ⟨rfl, rfl⟩

/-- Neighbours mean together things of the kind of the first. -/
lemma kind?_narrow? (h : Joining.narrow? v w = some both) :
    both.kind? = v.kind? ∧ v.kind?.isSome := by
  unfold Joining.narrow? at h
  split at h
  · next hsubset =>
      obtain rfl := Option.some.inj h
      obtain ⟨hkind, hsome⟩ := kind?_of_isSubset hsubset
      exact ⟨hkind, hkind ▸ hsome⟩
  · split at h
    · next hsubset =>
        obtain rfl := Option.some.inj h
        exact ⟨rfl, (kind?_of_isSubset hsubset).2⟩
    · exact kind?_union? h

end Value

/-! ### Tokens -/

/-- Operators have no value. -/
lemma TokenClass.isPromising_of_operator {c : TokenClass} (hc : c = .secondOrder ∨ c = .equality)
    {v : TokenVariant} (h : c.contains v = true) : v.isPromising = false := by
  rw [contains_iff] at h
  rcases hc with rfl | rfl <;> cases v <;> simp [ancestors, above, parent?, familyOf] at h ⊢ <;> rfl

namespace Token

variable {t : Token} {b : Binding} {v : Value}

/-- A token of things of the kind of its variant. -/
lemma wellTyped_produce_thing {kind : ThingKind} (h : v.kind? = some kind) :
    (b.produce (.thing kind) (some v)).WellTyped :=
  ⟨v, rfl, h⟩

/-- A token with the values of things of the kind of another token is a token like that one. -/
lemma WellTyped.produce {w : Value} (ht : t.WellTyped) (hv : t.value = some v)
    (h : w.kind? = v.kind? ∧ v.kind?.isSome) : (b.produce t.variant (some w)).WellTyped := by
  obtain ⟨hkind, hsome⟩ := h
  obtain ⟨kind, hv'⟩ := Option.isSome_iff_exists.mp hsome
  rw [ht.variant_eq_thing hv hv']
  exact wellTyped_produce_thing (hkind.trans hv')

end Token

/-! ### Rules -/

variable {state : State} {b : Binding} {t : Token}

open Token (WellTyped)

/-- The first argument of a rule is taken by its first parameter. -/
lemma Signature.accepts_head?_of_bind? {s : Signature} {window : List Phrase} {first : Token}
    {parameter : TokenClass} (h : s.bind? window = some b)
    (hparameter : s.parameters.head? = some parameter) (hfirst : b.tokens.head? = some first) :
    s.accepts parameter first = true := by
  have haccepts := accepts_of_bind? h
  obtain ⟨others, hothers⟩ := List.head?_eq_some_iff.mp hparameter
  obtain ⟨rest, hrest⟩ := List.head?_eq_some_iff.mp hfirst
  rw [hothers, hrest, List.forall₂_cons] at haccepts
  exact haccepts.1

namespace Joining

lemma wellTyped_unite (hb : ∀ u ∈ b.tokens, u.WellTyped) (h : unite state b = some t) :
    t.WellTyped := by
  obtain ⟨left, word, right, v, w, both, htokens, hv, -, hboth, rfl⟩ := unite_eq_some h
  exact (hb left (by simp [htokens])).produce hv (Value.kind?_union? hboth)

lemma wellTyped_narrow (hb : ∀ u ∈ b.tokens, u.WellTyped) (h : narrow state b = some t) :
    t.WellTyped := by
  obtain ⟨left, right, v, w, meant, htokens, hv, -, hmeant, rfl⟩ := narrow_eq_some h
  exact (hb left (by simp [htokens])).produce hv (Value.kind?_narrow? hmeant)

lemma wellTyped_withSpeaker (h : withSpeaker state b = some t) : t.WellTyped := by
  obtain ⟨-, -, -, -, -, -, -, -, rfl⟩ := withSpeaker_eq_some h
  exact Token.wellTyped_produce_thing rfl

lemma wellTyped_keepLast (hb : ∀ u ∈ b.tokens, u.WellTyped) (h : keepLast state b = some t) :
    t.WellTyped := by
  obtain ⟨last, hlast, rfl⟩ := keepLast_eq_some h
  exact (hb last (List.mem_of_getLast? hlast)).congr rfl rfl rfl

/-- An operator has no value to lose. -/
lemma wellTyped_keepFirst {s : Signature} {parameter : TokenClass} {window : List Phrase}
    (hs : s.parameters.head? = some parameter) (hexact : s.exactTypes = false)
    (hparameter : parameter = .secondOrder ∨ parameter = .equality)
    (hbind : s.bind? window = some b) (h : keepFirst state b = some t) : t.WellTyped := by
  obtain ⟨first, hfirst, rfl⟩ := keepFirst_eq_some h
  have haccepts := Signature.accepts_head?_of_bind? hbind hs hfirst
  rw [Signature.accepts, hexact, if_neg (by decide)] at haccepts
  exact Token.wellTyped_of_value_eq_none
    (TokenClass.isPromising_of_operator hparameter haccepts) rfl

lemma wellTyped_outcome {r : Rule} (hr : r ∈ rules) {window : List Phrase}
    (hbind : r.signature.bind? window = some b) (hb : ∀ u ∈ b.tokens, u.WellTyped)
    (h : r.outcome state b = some t) : t.WellTyped := by
  simp only [rules, List.mem_cons, List.not_mem_nil, or_false] at hr
  rcases hr with rfl | rfl | rfl | rfl | rfl | rfl | rfl | rfl
  · exact @wellTyped_unite state b t hb h
  · exact @wellTyped_unite state b t hb h
  · exact @wellTyped_withSpeaker state b t h
  · exact @wellTyped_narrow state b t hb h
  · exact @wellTyped_keepFirst state b t _ _ window rfl rfl (.inl rfl) hbind h
  · exact @wellTyped_keepFirst state b t _ _ window rfl rfl (.inr rfl) hbind h
  · exact @wellTyped_keepLast state b t hb h
  · exact wellTyped_keepLast hb (keepLast_of_keepQuantified h)

end Joining

namespace Filters

lemma wellTyped_outcome {r : Rule} (hr : r ∈ rules) (h : r.outcome state b = some t) :
    t.WellTyped := by
  rcases condition_or_selects hr h with hcondition | ⟨-, -, players, keep, -, -, rfl⟩
  · obtain ⟨left, -, -, property, operator, operand, -, hproperty, -, rfl⟩ :=
      condition_eq_some hcondition
    rw [hproperty]
    rintro v ⟨⟩
    exact ⟨_, rfl, rfl⟩
  · exact Token.wellTyped_produce_thing rfl

end Filters

/-- **Every rule of the grammar makes well typed tokens of well typed ones.** -/
theorem Rule.keeps_wellTyped {r : Rule} (hr : r ∈ Grammar.standardRules) :
    r.Keeps state Token.WellTyped := by
  intro window t hwindow ht
  obtain ⟨b, hbind, h⟩ := Option.bind_eq_some_iff.mp ht
  have hb : ∀ u ∈ b.tokens, u.WellTyped := by
    intro u hu
    obtain ⟨p, hp, hup⟩ := Signature.mem_of_bind? hbind u hu
    exact hwindow p hp u hup
  simp only [Grammar.standardRules, List.mem_append] at hr
  rcases hr with ((hr | hr) | hr) | hr
  · exact Joining.wellTyped_outcome hr hbind hb h
  · obtain ⟨x, rfl⟩ := Arithmetic.exists_eq_result hr h
    exact ⟨x, rfl⟩
  · obtain ⟨p, rfl⟩ := Times.exists_eq_result hr h
    exact ⟨p, rfl⟩
  · exact Filters.wellTyped_outcome hr h

/-! ### Values that are looked at -/

/-- The arguments with another value, or none, of the one at a place. -/
def Binding.withValue (b : Binding) (i : Nat) (v : Option Value) : Binding :=
  { b with tokens := b.tokens.modify i fun t => { t with value := v } }

/-- The members of the class have values, or may have one. -/
def TokenClass.hasValues : TokenClass → Bool
  | thing | numericProperty => true
  | only variant => variant.isPromising
  | _ => false

namespace Rule

/-- The rule takes the token for no value: its variant promises none, and it is no property that the
rule asks for. -/
structure TakesForNoValue (r : Rule) (t : Token) : Prop where
  not_promising : t.variant.isPromising = false
  not_asked : .numericProperty ∈ r.signature.parameters → ∀ p, t.variant ≠ .numericProperty p

/-- What the rule makes of arguments that its parameters take does not depend on the values of those
that it takes for none. -/
def LooksAtPromises (r : Rule) : Prop :=
  ∀ (state : State) (b : Binding) (i : Nat) (t : Token) (v : Option Value),
    List.Forall₂ (fun parameter u => r.signature.accepts parameter u = true)
      r.signature.parameters b.tokens →
    b.tokens[i]? = some t → r.TakesForNoValue t →
      r.outcome state (b.withValue i v) = r.outcome state b

variable {r : Rule}

/-- A parameter whose members have values takes its argument for the value. -/
lemma not_takesForNoValue {c : TokenClass} (hc : c ∈ r.signature.parameters)
    (hvalues : c.hasValues = true) {t : Token} (h : r.signature.accepts c t = true) :
    ¬r.TakesForNoValue t := by
  rintro ⟨hpromising, hasked⟩
  have hcontains := Signature.contains_of_accepts h
  cases c <;> simp only [TokenClass.hasValues, Bool.false_eq_true] at hvalues
  case only variant =>
      obtain rfl := TokenClass.contains_only_iff.mp hcontains
      simp [hvalues] at hpromising
  all_goals
    rw [TokenClass.contains_iff] at hcontains
    cases hvariant : t.variant <;>
      simp [hvariant, TokenClass.ancestors, TokenClass.above, TokenClass.parent?,
        TokenClass.familyOf] at hcontains
  case thing.thing => simp [hvariant, TokenVariant.isPromising] at hpromising
  case numericProperty.numericProperty property => exact hasked hc property hvariant
  all_goals (split at hcontains <;> simp at hcontains)

/-- A rule of two parameters looks at promised values only if the members of each parameter have
values or its argument's is not looked at. -/
lemma looksAtPromises_two {c d : TokenClass} (hparameters : r.signature.parameters = [c, d])
    (hfirst : c.hasValues = true ∨ ∀ state text t u v, r.signature.accepts c t = true →
      t.variant.isPromising = false →
        r.outcome state ⟨text, [{ t with value := v }, u]⟩ = r.outcome state ⟨text, [t, u]⟩)
    (hsecond : d.hasValues = true ∨ ∀ state text t u v, r.signature.accepts d u = true →
      u.variant.isPromising = false →
        r.outcome state ⟨text, [t, { u with value := v }]⟩ = r.outcome state ⟨text, [t, u]⟩) :
    r.LooksAtPromises := by
  rintro state ⟨text, tokens⟩ i t v haccepts ht hnone
  rw [hparameters] at haccepts
  obtain ⟨x, rest, hx, hrest, rfl⟩ := List.forall₂_cons_left_iff.mp haccepts
  obtain ⟨y, none, hy, hend, rfl⟩ := List.forall₂_cons_left_iff.mp hrest
  obtain rfl := List.forall₂_nil_left_iff.mp hend
  match i with
  | 0 =>
      obtain rfl := Option.some.inj ht
      exact hfirst.elim
        (fun hc => absurd hnone (not_takesForNoValue (by simp [hparameters]) hc hx))
        fun h => h state text x y v hx hnone.not_promising
  | 1 =>
      obtain rfl := Option.some.inj ht
      exact hsecond.elim
        (fun hd => absurd hnone (not_takesForNoValue (by simp [hparameters]) hd hy))
        fun h => h state text x y v hy hnone.not_promising
  | i + 2 => contradiction

/-- The same for a rule of three parameters. -/
lemma looksAtPromises_three {c d e : TokenClass}
    (hparameters : r.signature.parameters = [c, d, e])
    (hfirst : c.hasValues = true ∨ ∀ state text t u w v, r.signature.accepts c t = true →
      t.variant.isPromising = false → r.outcome state ⟨text, [{ t with value := v }, u, w]⟩
        = r.outcome state ⟨text, [t, u, w]⟩)
    (hsecond : d.hasValues = true ∨ ∀ state text t u w v, r.signature.accepts d u = true →
      u.variant.isPromising = false → r.outcome state ⟨text, [t, { u with value := v }, w]⟩
        = r.outcome state ⟨text, [t, u, w]⟩)
    (hthird : e.hasValues = true ∨ ∀ state text t u w v, r.signature.accepts e w = true →
      w.variant.isPromising = false → r.outcome state ⟨text, [t, u, { w with value := v }]⟩
        = r.outcome state ⟨text, [t, u, w]⟩) :
    r.LooksAtPromises := by
  rintro state ⟨text, tokens⟩ i t v haccepts ht hnone
  rw [hparameters] at haccepts
  obtain ⟨x, rest, hx, hrest, rfl⟩ := List.forall₂_cons_left_iff.mp haccepts
  obtain ⟨y, last, hy, hlast, rfl⟩ := List.forall₂_cons_left_iff.mp hrest
  obtain ⟨z, none, hz, hend, rfl⟩ := List.forall₂_cons_left_iff.mp hlast
  obtain rfl := List.forall₂_nil_left_iff.mp hend
  match i with
  | 0 =>
      obtain rfl := Option.some.inj ht
      exact hfirst.elim
        (fun hc => absurd hnone (not_takesForNoValue (by simp [hparameters]) hc hx))
        fun h => h state text x y z v hx hnone.not_promising
  | 1 =>
      obtain rfl := Option.some.inj ht
      exact hsecond.elim
        (fun hd => absurd hnone (not_takesForNoValue (by simp [hparameters]) hd hy))
        fun h => h state text x y z v hy hnone.not_promising
  | 2 =>
      obtain rfl := Option.some.inj ht
      exact hthird.elim
        (fun he => absurd hnone (not_takesForNoValue (by simp [hparameters]) he hz))
        fun h => h state text x y z v hz hnone.not_promising
  | i + 3 => contradiction

end Rule

/-- Whom a token means does not depend on a value that its variant does not promise. -/
lemma Token.meantPlayers?_withValue {t : Token} (h : t.variant.isPromising = false)
    (v : Option Value) (speaker : Option Player) :
    meantPlayers? { t with value := v } speaker = t.meantPlayers? speaker := by
  cases hvariant : t.variant <;> simp_all [meantPlayers?, TokenVariant.isPromising]

open Rule (looksAtPromises_two looksAtPromises_three)

lemma Joining.looksAtPromises {r : Rule} (hr : r ∈ rules) : r.LooksAtPromises := by
  simp only [rules, List.mem_cons, List.not_mem_nil, or_false] at hr
  rcases hr with rfl | rfl | rfl | rfl | rfl | rfl | rfl | rfl
  · exact looksAtPromises_three rfl (.inl rfl) (.inr fun _ _ _ _ _ _ _ _ => rfl) (.inl rfl)
  · exact looksAtPromises_three rfl (.inl rfl) (.inr fun _ _ _ _ _ _ _ _ => rfl) (.inl rfl)
  · refine looksAtPromises_three rfl (.inl rfl) (.inr fun _ _ _ _ _ _ _ _ => rfl) (.inr ?_)
    intro state text t u w v _ hw
    have hself : withSpeaker state ⟨text, [t, u, { w with value := v }]⟩
        = withSpeaker state ⟨text, [t, u, w]⟩ := by
      simp only [withSpeaker, Option.bind_eq_bind, Option.bind_some,
        Token.meantPlayers?_withValue hw]
      rfl
    exact hself
  · exact looksAtPromises_two rfl (.inl rfl) (.inl rfl)
  · exact looksAtPromises_two rfl (.inr fun _ _ _ _ _ _ _ => rfl) (.inr fun _ _ _ _ _ _ _ => rfl)
  · exact looksAtPromises_two rfl (.inr fun _ _ _ _ _ _ _ => rfl) (.inr fun _ _ _ _ _ _ _ => rfl)
  · exact looksAtPromises_two rfl (.inr fun _ _ _ _ _ _ _ => rfl) (.inl rfl)
  · exact looksAtPromises_two rfl (.inr fun _ _ _ _ _ _ _ => rfl) (.inl rfl)

lemma Arithmetic.looksAtPromises {r : Rule} (hr : r ∈ rules) : r.LooksAtPromises := by
  simp only [rules, List.mem_cons, List.not_mem_nil, or_false] at hr
  rcases hr with rfl | rfl | rfl | rfl
  · exact looksAtPromises_two rfl (.inl rfl) (.inl rfl)
  · exact looksAtPromises_three rfl (.inr fun _ _ _ _ _ _ _ _ => rfl) (.inl rfl)
      (.inr fun _ _ _ _ _ _ _ _ => rfl)
  · exact looksAtPromises_three rfl (.inl rfl) (.inr fun _ _ _ _ _ _ _ _ => rfl) (.inl rfl)
  · exact looksAtPromises_three rfl (.inl rfl) (.inr fun _ _ _ _ _ _ _ _ => rfl) (.inl rfl)

lemma Times.looksAtPromises {r : Rule} (hr : r ∈ rules) : r.LooksAtPromises := by
  simp only [rules, List.mem_cons, List.not_mem_nil, or_false] at hr
  rcases hr with rfl | rfl | rfl | rfl | rfl | rfl | rfl | rfl | rfl
  · exact looksAtPromises_two rfl (.inl rfl) (.inr fun _ _ _ _ _ _ _ => rfl)
  · refine looksAtPromises_two rfl (.inr fun _ _ t _ _ haccepts _ => ?_)
      (.inr fun _ _ _ _ _ _ _ => rfl)
    -- An amount is read as a number unless it is an article.
    have hvariant : t.variant = .article .indefinite :=
      (TokenClass.contains_only_iff.mp haccepts).symm
    obtain ⟨_, _, variant, _, _⟩ := t
    obtain rfl : variant = .article .indefinite := hvariant
    rfl
  · exact looksAtPromises_two rfl (.inl rfl) (.inr fun _ _ _ _ _ _ _ => rfl)
  · exact looksAtPromises_two rfl (.inl rfl) (.inr fun _ _ _ _ _ _ _ => rfl)
  · exact looksAtPromises_two rfl (.inr fun _ _ _ _ _ _ _ => rfl) (.inl rfl)
  · exact looksAtPromises_two rfl (.inr fun _ _ _ _ _ _ _ => rfl) (.inl rfl)
  · exact looksAtPromises_two rfl (.inr fun _ _ _ _ _ _ _ => rfl)
      (.inr fun _ _ _ _ _ _ _ => rfl)
  · exact looksAtPromises_two rfl (.inl rfl) (.inl rfl)
  · exact looksAtPromises_three rfl (.inl rfl) (.inr fun _ _ _ _ _ _ _ _ => rfl) (.inl rfl)

lemma Filters.looksAtPromises {r : Rule} (hr : r ∈ rules) : r.LooksAtPromises := by
  simp only [rules, List.mem_cons, List.not_mem_nil, or_false] at hr
  rcases hr with rfl | rfl | rfl | rfl | rfl | rfl
  · exact looksAtPromises_three rfl (.inl rfl) (.inr fun _ _ _ _ _ _ _ _ => rfl) (.inl rfl)
  · exact looksAtPromises_two rfl (.inl rfl) (.inl rfl)
  · exact looksAtPromises_three rfl (.inl rfl) (.inr fun _ _ _ _ _ _ _ _ => rfl) (.inl rfl)
  · exact looksAtPromises_three rfl (.inl rfl) (.inr fun _ _ _ _ _ _ _ _ => rfl) (.inl rfl)
  · exact looksAtPromises_three rfl (.inl rfl) (.inr fun _ _ _ _ _ _ _ _ => rfl) (.inl rfl)
  · refine looksAtPromises_three rfl (.inl rfl) (.inr fun _ _ _ _ _ _ _ _ => rfl) (.inr ?_)
    intro state text t u w v _ hw
    have hexcluded : without state ⟨text, [t, u, { w with value := v }]⟩
        = without state ⟨text, [t, u, w]⟩ := by
      simp only [without, Token.meantPlayers?_withValue hw]
      rfl
    exact hexcluded

/-- **No rule of the grammar looks at the value of an argument that it takes for none.** -/
theorem Rule.looksAtPromises_of_mem {r : Rule} (hr : r ∈ Grammar.standardRules) :
    r.LooksAtPromises := by
  simp only [Grammar.standardRules, List.mem_append] at hr
  rcases hr with ((hr | hr) | hr) | hr
  · exact Joining.looksAtPromises hr
  · exact Arithmetic.looksAtPromises hr
  · exact Times.looksAtPromises hr
  · exact Filters.looksAtPromises hr

/-- The arguments have the values that the rule looks at: each has one, or is a property that the
rule asks for, which may not be compared yet, or its value does not matter. -/
def Rule.IsProvided (r : Rule) (state : State) (b : Binding) : Prop :=
  ∀ i t, b.tokens[i]? = some t → t.value.isSome = true
    ∨ (.numericProperty ∈ r.signature.parameters ∧ ∃ p, t.variant = .numericProperty p)
    ∨ ∀ v, r.outcome state (b.withValue i v) = r.outcome state b

/-- **No rule of the grammar misses a value in well typed phrases.** -/
theorem Rule.isProvided_of_bind? {r : Rule} (hr : r ∈ Grammar.standardRules)
    {window : List Phrase} (hwindow : Sentence.AllTokens WellTyped window)
    (hbind : r.signature.bind? window = some b) : r.IsProvided state b := by
  intro i t ht
  obtain ⟨p, hp, htp⟩ := Signature.mem_of_bind? hbind t (List.mem_of_getElem? ht)
  have htyped : t.WellTyped := hwindow p hp t htp
  by_cases hpromising : t.variant.isPromising = true
  · exact .inl (htyped.isSome_value hpromising)
  · by_cases hasked : .numericProperty ∈ r.signature.parameters
        ∧ ∃ p, t.variant = .numericProperty p
    · exact .inr (.inl hasked)
    · have hnone : r.TakesForNoValue t :=
        ⟨Bool.eq_false_iff.mpr hpromising, fun h p hp => hasked ⟨h, p, hp⟩⟩
      have haccepts := Signature.accepts_of_bind? hbind
      exact .inr (.inr fun v =>
        Rule.looksAtPromises_of_mem hr state b i t v haccepts ht hnone)

end ChatCommand

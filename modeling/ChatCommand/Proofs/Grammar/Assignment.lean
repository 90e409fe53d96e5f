/-
Arguments in any order.

Where phrases may come in any order, each parameter in turn is given the first token left that it
takes, and no parameter gives a token back. Classes form a tree, so two of them with a variant in
common lie one in the other, and a token that has been given too early can be exchanged.

* `TokenClass.isSubclass_or_isSubclass`: of two classes with a common variant one holds the other;
* `Signature.Yields`: whatever two parameters both take, the later one could take in place of
  anything the earlier one takes;
* `Signature.exists_exchange`: then a token may be given to an earlier parameter;
* `Signature.exists_assign?_iff`: so arguments are found if there are any;
* `Signature.isSome_bind?_of_anyOrder`: **a window gives arguments in any order exactly if its
  preferred readings can be handed out to the parameters one by one**, whatever its order.
-/
import Mathlib.Data.List.Pairwise
import ChatCommand.Proofs.Sentence.TokenInvariant

namespace ChatCommand

/-! ### The tree of classes -/

namespace TokenClass

/-- All variants of one class are in another. -/
def IsSubclass (c d : TokenClass) : Prop :=
  ∀ v, c.contains v = true → d.contains v = true

/-- All variants of another class are in this one, and further ones. -/
def StrictlyContains (c d : TokenClass) : Prop :=
  d.IsSubclass c ∧ ∃ v, c.contains v = true ∧ d.contains v = false

variable {c d : TokenClass} {v : TokenVariant}

/-- A class holds what the class below it holds: the classes above a variant end with the root. -/
lemma isSubclass_of_parent? (h : c.parent? = some d) : c.IsSubclass d := by
  intro v hv
  rw [contains_iff] at hv ⊢
  cases v with
  | arithmetic o =>
      cases ho : o.precedence <;> simp only [ancestors, above, parent?, familyOf, ho,
        List.mem_cons, List.not_mem_nil, or_false] at hv ⊢ <;>
        rcases hv with rfl | rfl | rfl | rfl <;> simp_all [parent?, familyOf]
  | _ =>
      simp only [ancestors, above, parent?, familyOf, List.mem_cons, List.not_mem_nil,
        or_false] at hv ⊢
      rcases hv with rfl | rfl | rfl | rfl <;> simp_all [parent?, familyOf]

/-- A class does not strictly contain one that holds it. -/
lemma not_strictlyContains_of_isSubclass (h : c.IsSubclass d) : ¬c.StrictlyContains d := by
  rintro ⟨-, v, hc, hd⟩
  rw [h v hc] at hd
  contradiction

/-- Each of the classes above is directly above the one before. -/
lemma isChain_ancestors (c : TokenClass) :
    c.ancestors.IsChain fun c d => c.parent? = some d := by
  have key (steps : Nat) (c : TokenClass) :
      (c :: c.above steps).IsChain fun c d => c.parent? = some d := by
    induction steps generalizing c with
    | zero => simp [above]
    | succ steps ih =>
        rw [above]
        cases hp : c.parent? with
        | none => simp
        | some p => exact .cons_cons hp (ih p)
  exact key 3 c

/-- **Classes form a tree**: of two classes with a common variant one holds the other. -/
theorem isSubclass_or_isSubclass (hc : c.contains v = true) (hd : d.contains v = true) :
    c.IsSubclass d ∨ d.IsSubclass c := by
  have htrans : IsTrans TokenClass IsSubclass := ⟨fun _ _ _ h h' v hv => h' v (h v hv)⟩
  have hchain : (only v).ancestors.Pairwise IsSubclass :=
    List.isChain_iff_pairwise.mp ((isChain_ancestors (only v)).imp fun _ _ => isSubclass_of_parent?)
  have hnested : (only v).ancestors.Pairwise fun c d => c.IsSubclass d ∨ d.IsSubclass c :=
    hchain.imp .inl
  have hsymm : Std.Symm fun c d : TokenClass => c.IsSubclass d ∨ d.IsSubclass c :=
    ⟨fun _ _ => Or.symm⟩
  exact hnested.forall_of_forall (fun c _ => .inl fun _ hv => hv) (contains_iff.mp hc)
    (contains_iff.mp hd)

end TokenClass

/-! ### Compatible tokens -/

/-- Compatibility does not depend on the order. -/
lemma TokenVariant.isCompatible_comm (a b : TokenVariant) :
    a.isCompatible b = b.isCompatible a := by
  unfold isCompatible
  cases ha : a.realm <;> cases hb : b.realm <;> try rfl
  · rw [decide_eq_decide.mpr (eq_comm (a := a)), Bool.and_comm]
  · grind [realm]

namespace Signature

lemma pairwiseCompatible_iff {tokens : List Token} :
    pairwiseCompatible tokens = true
      ↔ tokens.Pairwise fun t u => t.variant.isCompatible u.variant = true := by
  induction tokens with
  | nil => simp [pairwiseCompatible]
  | cons t rest ih =>
      rw [pairwiseCompatible, Bool.and_eq_true, List.all_eq_true, ih, List.pairwise_cons]

lemma pairwiseCompatible_perm {tokens others : List Token} (h : tokens.Perm others) :
    pairwiseCompatible tokens = pairwiseCompatible others := by
  rw [Bool.eq_iff_iff, pairwiseCompatible_iff, pairwiseCompatible_iff]
  refine h.pairwise_iff fun {t u} htu => ?_
  rwa [TokenVariant.isCompatible_comm]

/-! ### Exchange -/

variable {s : Signature} {parameters : List TokenClass} {tokens args : List Token}

/-- If both parameters take some token, the later one takes all that the earlier one takes, so it
can do with any token that the earlier one leaves. -/
def Yields (s : Signature) (earlier later : TokenClass) : Prop :=
  ∀ t, s.accepts earlier t = true → s.accepts later t = true →
    ∀ u, s.accepts earlier u = true → s.accepts later u = true

/-- Exact classes have one variant each, so a token that both take makes them the same. -/
lemma yields_of_exactTypes (h : s.exactTypes = true) (c d : TokenClass) : s.Yields c d := by
  intro t hc hd u hu
  simp only [accepts, h, if_true, TokenClass.isExactly_iff] at hc hd hu ⊢
  rw [hd, ← hc, hu]

/-- Of two classes with a common token, one that does not strictly contain the other lies in it. -/
lemma yields_of_not_strictlyContains (h : s.exactTypes = false) {c d : TokenClass}
    (hcd : ¬c.StrictlyContains d) : s.Yields c d := by
  intro t hc hd u hu
  simp only [accepts, h, Bool.false_eq_true, if_false] at hc hd hu ⊢
  rcases TokenClass.isSubclass_or_isSubclass hc hd with hsub | hsub
  · exact hsub u.variant hu
  · by_contra hnot
    exact hcd ⟨hsub, u.variant, hu, by simpa using hnot⟩

/-- A token that some parameter has been given may be exchanged for another one that all parameters
take that take this one. -/
lemma exists_exchange {t u : Token}
    (h : List.Forall₂ (fun c a => s.accepts c a = true) parameters args) (ht : t ∈ args)
    (hyield : ∀ c ∈ parameters, s.accepts c t = true → s.accepts c u = true) :
    ∃ others, List.Forall₂ (fun c a => s.accepts c a = true) parameters others
      ∧ (u :: args).Perm (t :: others) := by
  induction h with
  | nil => contradiction
  | @cons c a parameters args hca hrest ih =>
      obtain ⟨hyieldFirst, hyieldRest⟩ := List.forall_mem_cons.mp hyield
      rcases List.mem_cons.mp ht with rfl | ht
      · exact ⟨u :: args, .cons (hyieldFirst hca) hrest, .swap t u args⟩
      · obtain ⟨others, hothers, hperm⟩ := ih ht hyieldRest
        refine ⟨a :: others, .cons hca hothers, ?_⟩
        calc u :: a :: args
            |>.Perm (a :: u :: args) := .swap a u args
          _ |>.Perm (a :: t :: others) := hperm.cons a
          _ |>.Perm (t :: a :: others) := .swap t a others

/-- There is a token to take out if one has the property. -/
lemma exists_takeFirst? {p : Token → Bool} {t : Token} (ht : t ∈ tokens) (hp : p t = true) :
    ∃ u rest, takeFirst? p tokens = some (u, rest) := by
  induction tokens with
  | nil => contradiction
  | cons u others ih =>
      rw [takeFirst?]
      split
      · exact ⟨u, others, rfl⟩
      · next hu =>
          rcases List.mem_cons.mp ht with rfl | ht
          · exact absurd hp hu
          · obtain ⟨v, rest, hv⟩ := ih ht
            exact ⟨v, u :: rest, by rw [hv]; rfl⟩

/-! ### Handing out -/

/-- Handing out in turn succeeds if the tokens can be handed out at all. The induction takes the
token that the first parameter is given from the parameter that has it in the given assignment. -/
lemma exists_assign?_of_forall₂ (hyield : parameters.Pairwise s.Yields)
    (hargs : List.Forall₂ (fun c a => s.accepts c a = true) parameters args)
    (hperm : args.Perm tokens) : ∃ found, s.assign? parameters tokens = some found := by
  induction parameters generalizing args tokens with
  | nil => exact ⟨[], rfl⟩
  | cons c parameters ih =>
      obtain ⟨hyieldFirst, hyieldRest⟩ := List.pairwise_cons.mp hyield
      obtain ⟨a, rest, hca, hrest, rfl⟩ := List.forall₂_cons_left_iff.mp hargs
      obtain ⟨t, left, htake⟩ := exists_takeFirst? (hperm.subset List.mem_cons_self) hca
      have hleft : (a :: rest).Perm (t :: left) := hperm.trans (perm_of_takeFirst? htake)
      have hct : s.accepts c t = true := accepts_of_takeFirst? htake
      obtain ⟨others, hothers, hexchange⟩ :
          ∃ others, List.Forall₂ (fun c a => s.accepts c a = true) parameters others
            ∧ (a :: rest).Perm (t :: others) := by
        rcases List.mem_cons.mp (hleft.symm.subset List.mem_cons_self) with rfl | ht
        · exact ⟨rest, hrest, .refl _⟩
        · exact exists_exchange hrest ht fun d hd hdt => hyieldFirst d hd t hct hdt a hca
      obtain ⟨found, hfound⟩ := ih hyieldRest hothers ((hexchange.symm.trans hleft).cons_inv)
      exact ⟨t :: found, by simp [assign?, htake, hfound]⟩

/-- What is handed out is taken from the tokens. -/
lemma exists_perm_of_assign? (h : s.assign? parameters tokens = some args) :
    ∃ left, tokens.Perm (args ++ left) := by
  induction parameters generalizing tokens args with
  | nil =>
      simp only [assign?, Option.some.injEq] at h
      exact ⟨tokens, by rw [← h]; exact .refl _⟩
  | cons c parameters ih =>
      simp only [assign?, Option.bind_eq_bind, Option.bind_eq_some_iff, Option.some.injEq] at h
      obtain ⟨⟨t, rest⟩, ht, others, hothers, rfl⟩ := h
      obtain ⟨left, hleft⟩ := ih hothers
      exact ⟨left, (perm_of_takeFirst? ht).trans (hleft.cons t)⟩

/-- All tokens are handed out if there are as many as parameters. -/
lemma perm_of_assign? (h : s.assign? parameters tokens = some args)
    (hlength : tokens.length = parameters.length) : args.Perm tokens := by
  obtain ⟨left, hperm⟩ := exists_perm_of_assign? h
  have hargs := (accepts_of_assign? h).length_eq
  have hcount := hperm.length_eq
  rw [List.length_append] at hcount
  obtain rfl : left = [] := List.eq_nil_of_length_eq_zero (by omega)
  rw [List.append_nil] at hperm
  exact hperm.symm

/-- **Arguments are found if there are any**: as many tokens as parameters are handed out in turn if
some order of them is accepted one by one. -/
theorem exists_assign?_iff (hyield : parameters.Pairwise s.Yields)
    (hlength : tokens.length = parameters.length) :
    (∃ found, s.assign? parameters tokens = some found) ↔
      ∃ args, args.Perm tokens
        ∧ List.Forall₂ (fun c a => s.accepts c a = true) parameters args := by
  constructor
  · rintro ⟨found, hfound⟩
    exact ⟨found, perm_of_assign? hfound hlength, accepts_of_assign? hfound⟩
  · rintro ⟨args, hperm, hargs⟩
    exact exists_assign?_of_forall₂ hyield hargs hperm

/-! ### Windows -/

/-- These tokens are the preferred readings of the window in some order, one for each parameter,
and each parameter takes its own. -/
structure IsAssignment (s : Signature) (window : List Phrase) (args : List Token) : Prop where
  perm : args.Perm (window.filterMap Phrase.best?)
  accepts : List.Forall₂ (fun c a => s.accepts c a = true) s.parameters args

/-- There is a preferred reading of each phrase if each has a reading. -/
lemma forall₂_best?_iff {window : List Phrase} {best : List Token} :
    List.Forall₂ (fun p t => Phrase.best? p = some t) window best ↔
      (∀ p ∈ window, p.tokens ≠ []) ∧ best = window.filterMap Phrase.best? := by
  induction window generalizing best with
  | nil => simp [List.forall₂_nil_left_iff]
  | cons p window ih =>
      rw [List.forall₂_cons_left_iff, List.forall_mem_cons]
      cases hp : p.tokens with
      | nil =>
          have hbest : p.best? = none := by simp [Phrase.best?, hp]
          simp [hbest]
      | cons t others =>
          have hbest : p.best? = some t := by simp [Phrase.best?, hp]
          simp [hbest, ih]

/-- Where phrases may come in any order, a window gives arguments if these can be handed out. -/
lemma exists_bind?_iff_exists_isAssignment (hany : s.anyOrder = true)
    (hyield : s.parameters.Pairwise s.Yields) (window : List Phrase) :
    (∃ b, s.bind? window = some b) ↔
      window.length = s.arity ∧ (∀ p ∈ window, p.tokens ≠ [])
        ∧ (s.compatible = true → pairwiseCompatible (window.filterMap Phrase.best?) = true)
        ∧ ∃ args, s.IsAssignment window args := by
  have hfound : (∃ b, s.bind? window = some b) ↔
      window.length = s.arity ∧ (∀ p ∈ window, p.tokens ≠ [])
        ∧ (s.compatible = true → pairwiseCompatible (window.filterMap Phrase.best?) = true)
        ∧ ∃ found, s.assign? s.parameters (window.filterMap Phrase.best?) = some found := by
    constructor
    · rintro ⟨b, hb⟩
      obtain ⟨hlength, -, best, hbest, hcompatible, hargs⟩ := bind?_eq_some_iff.mp hb
      obtain ⟨hread, rfl⟩ := forall₂_best?_iff.mp hbest
      rw [if_pos hany] at hargs
      exact ⟨hlength, hread, hcompatible, b.tokens, hargs⟩
    · rintro ⟨hlength, hread, hcompatible, found, hfound⟩
      refine ⟨⟨joinText window, found⟩, bind?_eq_some_iff.mpr ⟨hlength, rfl, _,
        forall₂_best?_iff.mpr ⟨hread, rfl⟩, hcompatible, ?_⟩⟩
      rwa [if_pos hany]
  rw [hfound]
  refine and_congr_right fun hlength => and_congr_right fun hread => and_congr_right fun _ => ?_
  have hcount : (window.filterMap Phrase.best?).length = s.parameters.length := by
    rw [← (forall₂_best?_iff.mpr ⟨hread, rfl⟩).length_eq, hlength, arity]
  rw [exists_assign?_iff hyield hcount]
  exact exists_congr fun args => ⟨fun ⟨hperm, haccepts⟩ => ⟨hperm, haccepts⟩,
    fun ⟨hperm, haccepts⟩ => ⟨hperm, haccepts⟩⟩

/-- The arguments that a window gives in any order are its preferred readings. -/
lemma isAssignment_of_bind? (hany : s.anyOrder = true) {window : List Phrase} {b : Binding}
    (h : s.bind? window = some b) : s.IsAssignment window b.tokens := by
  obtain ⟨hlength, -, best, hbest, -, hargs⟩ := bind?_eq_some_iff.mp h
  obtain ⟨-, rfl⟩ := forall₂_best?_iff.mp hbest
  rw [if_pos hany] at hargs
  have hcount : (window.filterMap Phrase.best?).length = s.parameters.length := by
    rw [← hbest.length_eq, hlength, arity]
  exact ⟨perm_of_assign? hargs hcount, accepts_of_assign? hargs⟩

/-- The order of the phrases does not matter for what can be handed out. -/
lemma IsAssignment.of_perm {window others : List Phrase} (h : s.IsAssignment window args)
    (hperm : window.Perm others) : s.IsAssignment others args :=
  ⟨h.perm.trans (hperm.filterMap _), h.accepts⟩

/-- **Arguments in any order are found if there are any**, provided that classes have to match
exactly, or that no parameter has a class that strictly contains the class of a later one: a window
gives arguments exactly if there is a phrase for each parameter, each phrase has a reading, the
preferred ones are compatible where they must be, and they can be handed out to the parameters one
by one. The arguments are then such an assignment, the text is that of the window, and the order of
the phrases decides nothing but which token goes where. -/
theorem isSome_bind?_of_anyOrder (hany : s.anyOrder = true)
    (hclasses : s.exactTypes = true
      ∨ s.parameters.Pairwise fun c d => ¬c.StrictlyContains d) (window : List Phrase) :
    ((s.bind? window).isSome = true ↔
        window.length = s.parameters.length ∧ (∀ p ∈ window, p.tokens ≠ [])
          ∧ (s.compatible = true → (window.filterMap Phrase.best?).Pairwise fun t u =>
              t.variant.isCompatible u.variant = true)
          ∧ ∃ args, s.IsAssignment window args)
      ∧ (∀ b, s.bind? window = some b →
          b.text = joinText window ∧ s.IsAssignment window b.tokens)
      ∧ ∀ others, others.Perm window →
          (s.bind? others).isSome = (s.bind? window).isSome := by
  have hyield : s.parameters.Pairwise s.Yields := by
    cases hexact : s.exactTypes with
    | true => exact List.pairwise_of_forall (yields_of_exactTypes hexact)
    | false =>
        have hpairs := hclasses.resolve_left (by simp [hexact])
        exact hpairs.imp fun hcd => yields_of_not_strictlyContains hexact hcd
  have hiff := exists_bind?_iff_exists_isAssignment hany hyield
  refine ⟨?_, fun b hb => ⟨(bind?_eq_some_iff.mp hb).2.1, isAssignment_of_bind? hany hb⟩,
    fun others hperm => ?_⟩
  · rw [Option.isSome_iff_exists, hiff, pairwiseCompatible_iff]
    rfl
  · rw [Bool.eq_iff_iff, Option.isSome_iff_exists, Option.isSome_iff_exists, hiff, hiff,
      hperm.length_eq, pairwiseCompatible_perm (hperm.filterMap Phrase.best?)]
    refine and_congr_right fun _ => and_congr ?_ (and_congr_right fun _ => ?_)
    · exact forall_congr' fun p => by rw [hperm.mem_iff]
    · exact exists_congr fun args => ⟨fun h => h.of_perm hperm, fun h => h.of_perm hperm.symm⟩

/-- A player, a thing and an object are asked for, and the speaker, a map and a player are there. -/
theorem exists_bind?_of_anyOrder :
    ∃ (s : Signature) (window : List Phrase) (b : Binding),
      s.anyOrder = true ∧ s.parameters = [.only (.thing .player), .thing, .object]
        ∧ (s.parameters.Pairwise fun c d => ¬c.StrictlyContains d)
        ∧ s.bind? window = some b ∧ b.text = "me zavod phogue" ∧ s.IsAssignment window b.tokens
        ∧ b.tokens.map Token.text = ["phogue", "zavod", "me"] := by
  let s : Signature :=
    { id := "", parameters := [.only (.thing .player), .thing, .object], anyOrder := true }
  let phrase (text : String) (variant : TokenVariant) : Phrase :=
    .ofToken text { text, variant, similarity := .hundred }
  let window := [phrase "me" .selfReflection, phrase "zavod" (.thing .map),
    phrase "phogue" (.thing .player)]
  have hplayer : (TokenClass.only (.thing .player)).IsSubclass .thing :=
    TokenClass.isSubclass_of_parent? rfl
  have hthing : TokenClass.thing.IsSubclass .object := TokenClass.isSubclass_of_parent? rfl
  have hclasses : s.parameters.Pairwise fun c d => ¬c.StrictlyContains d := by
    have hobject : (TokenClass.only (.thing .player)).IsSubclass .object :=
      fun v hv => hthing v (hplayer v hv)
    simp [s, TokenClass.not_strictlyContains_of_isSubclass, hplayer, hthing, hobject]
  obtain ⟨-, hargs, -⟩ := isSome_bind?_of_anyOrder (s := s) rfl (.inr hclasses) window
  obtain ⟨b, hb⟩ : ∃ b, s.bind? window = some b := ⟨_, rfl⟩
  obtain ⟨htext, hassignment⟩ := hargs b hb
  obtain rfl := Option.some.inj hb
  exact ⟨s, window, _, rfl, rfl, hclasses, rfl, htext.trans rfl, hassignment, rfl⟩

end Signature

end ChatCommand

/-
What recognition does not depend on.

* `Sentence.readStages_congr`: reading depends on a context by the tokens of spans and the budget;
* `Parser.readStages_context`: so it depends neither on who speaks nor on the time;
* `CommandMatch.withoutTimes`: a match up to the times that are told from now on;
* `Parser.map_parse`: what two inputs come to is the same if what they are reduced to is;
* `Parser.parse_independent`: **the time and the speaker do not tell what is recognized**: only what
  is to be done at which time, and for whom.
-/
import ChatCommand.Proofs.Grammar.Speaker
import ChatCommand.Proofs.Recognition.Origin
import ChatCommand.Proofs.Sentence.Related

namespace ChatCommand

/-! ### Reading -/

/-- Reading depends on a context by the tokens of spans and the budget. -/
lemma Sentence.readStages_congr {ctx ctx' : Context} (htokens : ctx.tokensFor = ctx'.tokensFor)
    (hbudget : ctx.budget = ctx'.budget) : readStages ctx = readStages ctx' := by
  have hread : ctx.readPhrase = ctx'.readPhrase := by
    funext p stage
    rw [Context.readPhrase, Context.readPhrase, htokens]
  have hspan : ctx.tokenizeText = ctx'.tokenizeText := by
    funext through text
    rw [Context.tokenizeText, Context.tokenizeText, hread]
  have hmerge : mergeStep? ctx = mergeStep? ctx' := by
    funext stage s
    simp only [mergeStep?, findMerge?, Context.merge?, hspan]
  have hstage : stageStep ctx = stageStep ctx' := by
    funext s stage
    simp only [stageStep, tokenize, refactor, hread, hmerge, hbudget]
  have hcontinue : continueWith ctx = continueWith ctx' := by
    funext p stage
    simp only [continueWith, hstage]
  funext s
  rw [readStages, readStages, hcontinue]

variable {catalog : Catalog} {config : Config} {state : State}

/-- What words and names mean depends neither on who speaks nor on the time. -/
lemma Family.reading_with (family : Family) (hit : Hit) (speaker : Option Player) (now : Instant) :
    family.reading hit { state with speaker, now } = family.reading hit state := by
  cases family <;> rfl

/-- Reading depends neither on who speaks nor on the time. -/
lemma Parser.readStages_context (speaker : Option Player) (now : Instant) :
    Sentence.readStages (context ⟨catalog, .standard, config⟩ { state with speaker, now })
      = Sentence.readStages (context ⟨catalog, .standard, config⟩ state) := by
  refine Sentence.readStages_congr ?_ rfl
  funext stage text
  have hfamily :
      (context ⟨catalog, .standard, config⟩ { state with speaker, now }).familyTokens text
        = (context ⟨catalog, .standard, config⟩ state).familyTokens text := by
    funext family
    exact congrArg (List.filterMap · (catalog.hits family text))
      (funext fun hit => family.reading_with hit speaker now)
  rw [Context.tokensFor, Context.tokensFor, hfamily]
  rfl

/-! ### Matches -/

namespace CommandMatch

/-- The match without the times that are told from now on. -/
def withoutTimes (m : CommandMatch) : CommandMatch := { m with delay := none, period := none }

lemma withoutTimes_addTime (m : CommandMatch) (now now' : Instant) (p : TimePattern) :
    (m.addTime now' p).withoutTimes = (m.withoutTimes.addTime now p).withoutTimes := by
  obtain ⟨_, _, _, _, _, _, _, _, delay, period, interval⟩ := m
  unfold addTime
  cases p.use <;> cases delay <;> cases period <;> cases interval <;> rfl

/-- What a token adds to a match up to times depends on the match up to times. -/
lemma withoutTimes_absorb (state : State) (m : CommandMatch) (t : Token) (now : Instant) :
    (absorb { state with now } m t).withoutTimes
      = (absorb state m.withoutTimes t).withoutTimes := by
  unfold absorb
  split <;> first | rfl | exact withoutTimes_addTime m _ _ _

/-- Seen at another time a sentence makes the same match up to times. -/
lemma withoutTimes_assemble (mark : String) (commands : List TextCommand) (s : Sentence)
    (now : Instant) :
    (assemble mark commands s { state with now }).withoutTimes
      = (assemble mark commands s state).withoutTimes := by
  have key (tokens : List Token) (m m' : CommandMatch) (h : m'.withoutTimes = m.withoutTimes) :
      (tokens.foldl (absorb { state with now }) m').withoutTimes
        = (tokens.foldl (absorb state) m).withoutTimes := by
    induction tokens generalizing m m' with
    | nil => exact h
    | cons t tokens ih =>
        refine ih _ _ ?_
        have hnow := withoutTimes_absorb state m t state.now
        rw [withoutTimes_absorb, h, ← hnow]
  exact key _ _ _ rfl

lemma addTime_withSpeaker (m : CommandMatch) (speaker : Option Player) (now : Instant)
    (p : TimePattern) :
    { m with speaker }.addTime now p = { m.addTime now p with speaker } := by
  unfold addTime
  cases p.use <;> dsimp only <;> split <;> rfl

/-- Without a reference to the speaker a sentence makes the same match, whoever speaks. -/
lemma assemble_withSpeaker {s : Sentence} (h : s.AllTokens fun t => t.variant ≠ .selfReflection)
    (mark : String) (commands : List TextCommand) (speaker : Option Player) :
    assemble mark commands s { state with speaker }
      = { assemble mark commands s state with speaker } := by
  have hbest : ∀ t ∈ s.filterMap Phrase.best?, t.variant ≠ .selfReflection := by
    intro t ht
    obtain ⟨p, hp, hpt⟩ := List.mem_filterMap.mp ht
    exact h p hp t (List.mem_of_mem_head? hpt)
  have habsorb (m : CommandMatch) (t : Token) (ht : t.variant ≠ .selfReflection) :
      absorb { state with speaker } { m with speaker } t
        = { absorb state m t with speaker } := by
    unfold absorb
    split
    all_goals try rfl
    · contradiction
    · exact addTime_withSpeaker m speaker state.now _
  have key (tokens : List Token) (m : CommandMatch)
      (htokens : ∀ t ∈ tokens, t.variant ≠ .selfReflection) :
      tokens.foldl (absorb { state with speaker }) { m with speaker }
        = { tokens.foldl (absorb state) m with speaker } := by
    induction tokens generalizing m with
    | nil => rfl
    | cons t tokens ih =>
        rw [List.forall_mem_cons] at htokens
        rw [List.foldl_cons, List.foldl_cons, habsorb m t htokens.1]
        exact ih _ htokens.2
  exact key _ { mark, commands, speaker := state.speaker } hbest

end CommandMatch

/-! ### Rules -/

/-- A token that does not refer to the speaker, and itself. -/
def Token.SamePlain (t u : Token) : Prop := t.variant ≠ .selfReflection ∧ t = u

/-- Tokens that are the same behind the veil. -/
def Token.SameVeiled (t u : Token) : Prop := t.veiled = u.veiled

lemma Binding.eq_of_related {b c : Binding} (h : b.Related Eq c) : b = c := by
  obtain ⟨text, tokens⟩ := b
  obtain ⟨text', tokens'⟩ := c
  have htokens : List.Forall₂ Eq tokens tokens' := h.tokens
  rw [List.forall₂_eq_eq_eq] at htokens
  rw [show text = text' from h.text, htokens]

lemma Sentence.eq_of_related {R : Token → Token → Prop} (hR : ∀ t u, R t u → t = u)
    {s s' : Sentence} (h : Related R s s') : s = s' := by
  have hphrase (p q : Phrase) (hpq : p.Related R q) : p = q := by
    obtain ⟨text, tokens⟩ := p
    obtain ⟨text', tokens'⟩ := q
    have htokens := hpq.tokens.imp hR
    rw [List.forall₂_eq_eq_eq] at htokens
    rw [show text = text' from hpq.text, show tokens = tokens' from htokens]
  have hphrases := h.imp hphrase
  rwa [List.forall₂_eq_eq_eq] at hphrases

namespace Rule

variable {r : Rule} (hr : r ∈ Grammar.standardRules)

include hr

/-- Rules do not see the time. -/
lemma respects_now (now : Instant) : r.Respects state { state with now } Eq := by
  intro b c hbc
  obtain rfl := Binding.eq_of_related hbc
  rw [outcome_congr hr state { state with now } fun t _ => rfl]
  cases r.outcome { state with now } b with
  | none => exact .none
  | some t => exact .some rfl

/-- Rules do not see who speaks where nothing refers to the speaker, and leave nothing that does. -/
lemma respects_plain (speaker : Option Player) :
    r.Respects state { state with speaker } Token.SamePlain := by
  intro b c hbc
  obtain ⟨hplain, htokens⟩ := (List.forall₂_and_left _ _).mp hbc.tokens
  obtain rfl := Binding.eq_of_related ⟨hbc.text, htokens⟩
  rw [outcome_congr hr state { state with speaker }
    fun t ht => Token.meantPlayers?_congr (hplain t ht) _ _]
  cases h : r.outcome { state with speaker } b with
  | none => exact .none
  | some t =>
      refine .some ⟨?_, rfl⟩
      rcases variant_of_outcome hr h with ⟨u, hu, hvariant⟩ | hmade
      · rw [hvariant]
        exact hplain u hu
      · intro hself
        rw [hself] at hmade
        contradiction

/-- Behind the veil rules do not see who speaks. -/
lemma respects_veil (speaker : Option Player) :
    r.Respects state { state with speaker } Token.SameVeiled := by
  intro b c hbc
  have hveiled : b.veiled = c.veiled :=
    Binding.eq_of_related ⟨hbc.text,
      List.forall₂_map_left_iff.mpr (List.forall₂_map_right_iff.mpr hbc.tokens)⟩
  have hmap := map_veiled_outcome hr state state b
  rw [hveiled, ← map_veiled_outcome hr { state with speaker } state c] at hmap
  cases hb : r.outcome state b <;> cases hc : r.outcome { state with speaker } c <;>
    rw [hb, hc] at hmap
  · exact .none
  · contradiction
  · contradiction
  · exact .some (Option.some.inj hmap)

end Rule

/-! ### Inputs -/

namespace Parser

variable {mark text : String}

/-- What an input comes to is told by what its read sentence comes to. -/
lemma map_parse {β : Type} {parser : Parser} {state' : State} {f g : CommandMatch → β}
    (hread : Sentence.readStages (parser.context state')
      = Sentence.readStages (parser.context state))
    (h : let s := ((Sentence.ofWords (splitWords text)).readStages (parser.context state)).sentence
      (parser.parseRead mark state' s).map (Option.map f)
        = (parser.parseRead mark state s).map (Option.map g)) :
    (parser.parse mark text state').map (Option.map f)
      = (parser.parse mark text state).map (Option.map g) := by
  have hwords : (parser.parseWords mark state' (splitWords text)).map (Option.map f)
      = (parser.parseWords mark state (splitWords text)).map (Option.map g) := by
    rw [parseWords, parseWords, hread]
    split
    · rfl
    split
    · rfl
    dsimp only at h ⊢
    split
    · rfl
    · exact h
  rw [parse, parse]
  generalize parser.parseWords mark state' (splitWords text) = a at hwords ⊢
  generalize parser.parseWords mark state (splitWords text) = b at hwords ⊢
  cases a <;> cases b <;> simp_all [Except.map, Except.mapError]

variable {R : Token → Token → Prop} {β : Type} {f g : CommandMatch → β}

/-- If rules respect a relation, and matches of related sentences tell the same, then inputs tell
the same, provided that what is read is related to itself. -/
lemma map_parse_of_respects (hvariant : ∀ t u, R t u → t.variant = u.variant)
    (speaker : Option Player) (now : Instant)
    (hrules : ∀ r ∈ Grammar.standardRules, r.Respects state { state with speaker, now } R)
    (hread : ((Sentence.ofWords (splitWords text)).readStages
      (context ⟨catalog, .standard, config⟩ state)).sentence.AllTokens fun t => R t t)
    (hmatch : ∀ commands s s', Sentence.Related R s s' →
      f (.assemble mark commands s' { state with speaker, now })
        = g (.assemble mark commands s state)) :
    (parse ⟨catalog, .standard, config⟩ mark text { state with speaker, now }).map (Option.map f)
      = (parse ⟨catalog, .standard, config⟩ mark text state).map (Option.map g) := by
  refine map_parse (readStages_context speaker now) ?_
  dsimp only
  generalize ((Sentence.ofWords (splitWords text)).readStages
    (context ⟨catalog, .standard, config⟩ state)).sentence = s at hread ⊢
  have hextract : Commands.extract config.thresholds { state with speaker, now } s
      = Commands.extract config.thresholds state s := rfl
  have hrest : Sentence.Related R (Commands.extract config.thresholds state s).2
      (Commands.extract config.thresholds state s).2 :=
    List.forall₂_same.mpr fun p hp =>
      ⟨rfl, List.forall₂_same.mpr (Commands.allTokens_extract hread p hp)⟩
  obtain ⟨hreduced, hfault⟩ :=
    Sentence.related_reduce (context ⟨catalog, .standard, config⟩ state) hvariant hrules hrest
  have hfault' : ((Commands.extract config.thresholds state s).2.reduce
      (context ⟨catalog, .standard, config⟩ { state with speaker, now })).fault?
        = ((Commands.extract config.thresholds state s).2.reduce
          (context ⟨catalog, .standard, config⟩ state)).fault? := hfault.symm
  rw [parseRead, parseRead, hextract]
  dsimp only
  rw [hfault']
  split
  · rfl
  split
  · rfl
  · exact congrArg (Except.ok <| some ·) (hmatch _ _ _ hreduced)

/-- Whether there is a match is told by anything about the match. -/
lemma map_isSome_of_map {found found' : Except Error (Option CommandMatch)}
    (h : found.map (Option.map fun _ => ()) = found'.map (Option.map fun _ => ())) :
    found.map Option.isSome = found'.map Option.isSome := by
  rcases found with e | _ | m <;> rcases found' with e' | _ | m' <;> simp_all [Except.map]

/-- **The time and the speaker do not tell what is recognized.** Whatever the vocabulary, the
configuration and the state: at another time an input ends with the same error, with no match, or
with a match that differs in its delay and its period alone. Whoever speaks, it ends with the same
error, with no match, or with some match; and where nothing that was read refers to the speaker,
the match is the same but for the speaker. -/
theorem parse_independent (catalog : Catalog) (config : Config) (mark text : String)
    (state : State) :
    let parser : Parser := ⟨catalog, .standard, config⟩
    (∀ now, (parser.parse mark text { state with now }).map (Option.map CommandMatch.withoutTimes)
        = (parser.parse mark text state).map (Option.map CommandMatch.withoutTimes))
      ∧ ∀ speaker,
        (parser.parse mark text { state with speaker }).map Option.isSome
            = (parser.parse mark text state).map Option.isSome
          ∧ (((Sentence.ofWords (splitWords text)).readStages
                (parser.context state)).sentence.AllTokens (fun t => t.variant ≠ .selfReflection) →
              parser.parse mark text { state with speaker }
                = (parser.parse mark text state).map (Option.map fun m => { m with speaker })) := by
  intro parser
  refine ⟨fun now => ?_, fun speaker => ⟨?_, fun hplain => ?_⟩⟩
  · refine map_parse_of_respects (R := Eq) (fun _ _ => congrArg _) state.speaker now
      (fun r hr => Rule.respects_now hr now) (fun _ _ _ _ => rfl) fun commands s s' h => ?_
    rw [Sentence.eq_of_related (fun _ _ => id) h]
    exact CommandMatch.withoutTimes_assemble mark commands s' now
  · refine map_isSome_of_map ?_
    exact map_parse_of_respects (R := Token.SameVeiled) (fun _ _ => congrArg Token.variant)
      speaker state.now (fun r hr => Rule.respects_veil hr speaker) (fun _ _ _ _ => rfl)
      fun _ _ _ _ => rfl
  · have hid (found : Except Error (Option CommandMatch)) : found.map (Option.map id) = found := by
      cases found <;> simp [Except.map]
    rw [← hid (parser.parse mark text { state with speaker })]
    refine map_parse_of_respects (R := Token.SamePlain) (fun _ _ h => congrArg _ h.2)
      speaker state.now (fun r hr => Rule.respects_plain hr speaker)
      (fun p hp t ht => ⟨hplain p hp t ht, rfl⟩) fun commands s s' h => ?_
    obtain rfl := Sentence.eq_of_related (fun _ _ h => h.2) h
    have hs : s.AllTokens fun t => t.variant ≠ .selfReflection :=
      fun p hp t ht => (List.forall₂_same.mp (List.forall₂_same.mp h p hp).tokens t ht).1
    exact CommandMatch.assemble_withSpeaker hs mark commands speaker

/-- The call of a command is the same for the server and for a player. -/
theorem parse_independent_kick :
    let parser : Parser := ⟨.empty, .standard, {}⟩
    let state : State :=
      { commands := [{ canonicalName := "kick", aliases := ["kick"] }], now := ⟨0⟩ }
    let phogue : Player := { uid := "1", name := "Phogue" }
    ((Sentence.ofWords (splitWords "kick")).readStages
        (parser.context state)).sentence.AllTokens (fun t => t.variant ≠ .selfReflection)
      ∧ ∃ m, parser.parse "!" "kick" state = .ok (some m) ∧ m.commands = state.commands
        ∧ m.speaker = none
        ∧ parser.parse "!" "kick" { state with speaker := some phogue }
          = .ok (some { m with speaker := some phogue }) := by
  intro parser state phogue
  have hall : ((Sentence.ofWords (splitWords "kick")).readStages
      (parser.context state)).sentence.all fun p =>
        p.tokens.all fun t => t.variant ≠ .selfReflection := by
    decide +kernel
  have hplain : ((Sentence.ofWords (splitWords "kick")).readStages
      (parser.context state)).sentence.AllTokens fun t => t.variant ≠ .selfReflection := by
    intro p hp t ht
    simpa using List.all_eq_true.mp (List.all_eq_true.mp hall p hp) t ht
  have hfound : (parser.parse "!" "kick" state).toOption.join.any fun m =>
      m.commands = state.commands ∧ m.speaker = none := by
    decide +kernel
  obtain ⟨-, hspeakers⟩ := parse_independent .empty {} "!" "kick" state
  have hphogue := (hspeakers (some phogue)).2 hplain
  refine ⟨hplain, ?_⟩
  obtain ⟨m, h, hfields⟩ := exists_of_any_parse hfound
  obtain ⟨hcommands, hspeaker⟩ := of_decide_eq_true hfields
  rw [h] at hphogue
  exact ⟨m, h, hcommands, hspeaker, hphogue⟩

end Parser

end ChatCommand

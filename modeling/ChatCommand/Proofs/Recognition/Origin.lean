/-
Where the parts of a match come from.

* `State.Knows`: a player who is connected or speaks;
* `Value.Within`, `Token.Within`: all players, maps and items of a value are those of a state;
* `Rule.keeps_within`: the rules of the grammar make no others, whatever they unite, narrow or
  select;
* `Parser.keeps_within`: neither do words, expressions and names;
* `Commands.mem_extract`, `CommandMatch.within_assemble`: the commands that a sentence calls, and
  what it asks for;
* `Parser.within_of_parse`: **a match holds nothing but players, maps, items and commands of the
  state**, and the speaker.
-/
import Mathlib.Tactic.Common
import ChatCommand.Proofs.Grammar.Outcomes
import ChatCommand.Proofs.Recognition.Readings
import ChatCommand.Proofs.Sentence.TokenInvariant

namespace ChatCommand

/-- The player is connected or speaks. -/
def State.Knows (state : State) (p : Player) : Prop :=
  p ∈ state.players ∨ state.speaker = some p

/-- The players, maps and items of the value are those of the state. -/
def Value.Within (state : State) : Value → Prop
  | .players list => ∀ p ∈ list, state.Knows p
  | .maps list => ∀ m ∈ list, m ∈ state.maps
  | .items list => ∀ i ∈ list, i ∈ state.items
  | _ => True

/-- The value of the token, if it has one, is of the state. -/
def Token.Within (state : State) (t : Token) : Prop :=
  ∀ v, t.value = some v → v.Within state

variable {state : State}

/-! ### Values -/

namespace Value

lemma Within.union? {v w both : Value} (hv : v.Within state) (hw : w.Within state)
    (h : v.union? w = some both) : both.Within state := by
  cases v <;> cases w <;> simp only [Value.union?, Option.some.injEq, reduceCtorEq] at h
  case players.players a b =>
    subst h
    exact fun p hp => (mem_of_mem_unionBy hp).elim (hv p) (hw p)
  case maps.maps a b =>
    subst h
    exact fun m hm => (mem_of_mem_unionBy hm).elim (hv m) (hw m)
  case items.items a b =>
    subst h
    exact fun i hi => (mem_of_mem_unionBy hi).elim (hv i) (hw i)
  case locations.locations a b =>
    subst h
    trivial

lemma Within.narrow? {v w meant : Value} (hv : v.Within state) (hw : w.Within state)
    (h : Joining.narrow? v w = some meant) : meant.Within state := by
  unfold Joining.narrow? at h
  split at h
  · exact Option.some.inj h ▸ hw
  · split at h
    · exact Option.some.inj h ▸ hv
    · exact hv.union? hw h

end Value

/-! ### Tokens -/

namespace Token

lemma within_of_value_eq_none {t : Token} (h : t.value = none) : t.Within state := by
  intro v hv
  rw [h] at hv
  contradiction

lemma within_produce {b : Binding} {variant : TokenVariant} {v : Value} (hv : v.Within state) :
    (b.produce variant (some v)).Within state := by
  intro w hw
  exact Option.some.inj hw ▸ hv

lemma Within.players? {t : Token} (ht : t.Within state) {players : List Player}
    (h : t.players? = some players) : ∀ p ∈ players, state.Knows p := by
  obtain ⟨v, hv, hvp⟩ := Option.bind_eq_some_iff.mp h
  have hwithin := ht v hv
  cases v <;> simp only [Value.players?, Option.some.injEq, reduceCtorEq] at hvp
  subst hvp
  exact hwithin

/-- The players that a token means are known, also where it means the speaker. -/
lemma Within.meantPlayers? {t : Token} (ht : t.Within state) {players : List Player}
    (h : t.meantPlayers? state.speaker = some players) : ∀ p ∈ players, state.Knows p := by
  unfold Token.meantPlayers? at h
  split at h
  · exact ht.players? h
  · obtain rfl := Option.some.inj h
    exact fun p hp => .inr (Option.mem_toList.mp hp)
  · contradiction

end Token

/-! ### Rules -/

/-- The players of a selection are among those that were there before. -/
lemma Filters.within_result {b : Binding} {set : Token} (hset : set.Within state)
    {players : List Player} (h : set.players? = some players) (keep : Player → Bool) :
    (result b (players.filter keep)).Within state :=
  Token.within_produce fun p hp => hset.players? h p (List.mem_of_mem_filter hp)

lemma Joining.within_outcome {r : Rule} (hr : r ∈ rules) {b : Binding} {t : Token}
    (hb : ∀ u ∈ b.tokens, u.Within state) (h : r.outcome state b = some t) :
    t.Within state := by
  have hunite (h : unite state b = some t) : t.Within state := by
    obtain ⟨left, word, right, v, w, both, htokens, hv, hw, hboth, rfl⟩ := unite_eq_some h
    have hl : left.Within state := hb left (by simp [htokens])
    have hr : right.Within state := hb right (by simp [htokens])
    exact Token.within_produce ((hl v hv).union? (hr w hw) hboth)
  have hkeepFirst (h : keepFirst state b = some t) : t.Within state := by
    obtain ⟨first, -, rfl⟩ := keepFirst_eq_some h
    exact Token.within_of_value_eq_none rfl
  have hkeepLast (h : keepLast state b = some t) : t.Within state := by
    obtain ⟨last, hlast, rfl⟩ := keepLast_eq_some h
    exact hb last (List.mem_of_getLast? hlast)
  have hspeaker (h : withSpeaker state b = some t) : t.Within state := by
    obtain ⟨left, word, right, players, speaker, htokens, hl, hr, rfl⟩ := withSpeaker_eq_some h
    have hleft := (hb left (by simp [htokens])).meantPlayers? hl
    have hright := (hb right (by simp [htokens])).meantPlayers? hr
    exact Token.within_produce fun p hp => (mem_of_mem_unionBy hp).elim (hleft p) (hright p)
  have hnarrow (h : narrow state b = some t) : t.Within state := by
    obtain ⟨left, right, v, w, meant, htokens, hv, hw, hmeant, rfl⟩ := narrow_eq_some h
    have hl : left.Within state := hb left (by simp [htokens])
    have hr : right.Within state := hb right (by simp [htokens])
    exact Token.within_produce ((hl v hv).narrow? (hr w hw) hmeant)
  simp only [rules, List.mem_cons, List.not_mem_nil, or_false] at hr
  rcases hr with rfl | rfl | rfl | rfl | rfl | rfl | rfl | rfl
  · exact hunite h
  · exact hunite h
  · exact hspeaker h
  · exact hnarrow h
  · exact hkeepFirst h
  · exact hkeepFirst h
  · exact hkeepLast h
  · exact hkeepLast (keepLast_of_keepQuantified h)

lemma Filters.within_outcome {r : Rule} (hr : r ∈ rules) {b : Binding} {t : Token}
    (hb : ∀ u ∈ b.tokens, u.Within state) (h : r.outcome state b = some t) :
    t.Within state := by
  rcases condition_or_selects hr h
    with hcondition | ⟨set, others, players, keep, htokens, hplayers, rfl⟩
  · obtain ⟨-, -, -, -, -, -, -, -, -, rfl⟩ := condition_eq_some hcondition
    exact Token.within_produce trivial
  · exact within_result (hb set (by simp [htokens])) hplayers keep

/-- **The rules of the grammar bring in nobody and nothing.** -/
lemma Rule.keeps_within {r : Rule} (hr : r ∈ Grammar.standardRules) :
    r.Keeps state (Token.Within state) := by
  refine Rule.keeps_of_outcome fun b t hb h => ?_
  simp only [Grammar.standardRules, List.mem_append] at hr
  rcases hr with ((hr | hr) | hr) | hr
  · exact Joining.within_outcome hr hb h
  · obtain ⟨x, rfl⟩ := Arithmetic.exists_eq_result hr h
    exact Token.within_produce trivial
  · obtain ⟨p, rfl⟩ := Times.exists_eq_result hr h
    exact Token.within_produce trivial
  · exact Filters.within_outcome hr hb h

/-! ### Readings -/

/-- Things among those of the state are of the state. -/
lemma Value.Among.within {v : Value} {kind : ThingKind}
    (h : v.Among (Reading.everything state kind)) : v.Within state := by
  cases kind <;> cases v <;> try exact False.elim h
  · exact fun p hp => .inl (h hp)
  · exact fun m hm => h hm
  · exact fun i hi => h hi
  · trivial

/-- Words and names that are read stand for what is of the state. -/
lemma Token.IsRead.within {t : Token} (h : t.IsRead state) : t.Within state := by
  cases h with
  | bare _ hvalue => exact within_of_value_eq_none hvalue
  | things _ hvalue hv => exact fun w hw => Option.some.inj (hvalue.symm.trans hw) ▸ hv.within
  | number _ hvalue | quotedText _ hvalue | time _ hvalue =>
      intro w hw
      obtain rfl := Option.some.inj (hvalue.symm.trans hw)
      trivial

/-- Words, expressions, names and rules give tokens that are of the state. -/
lemma Parser.keeps_within (catalog : Catalog) (config : Config) (state : State) :
    (context ⟨catalog, .standard, config⟩ state).Keeps (Token.Within state) where
  read stage text t ht := by
    rcases isRead_of_mem_tokensFor ht with h | ⟨c, -, rfl⟩
    · exact h.within
    · rintro v ⟨⟩
      trivial
  rule _ hr := Rule.keeps_within hr

/-! ### Commands -/

lemma State.mem_of_command? {name : String} {c : TextCommand} (h : state.command? name = some c) :
    c ∈ state.commands :=
  List.mem_of_find?_eq_some h

lemma State.canonicalName_of_command? {name : String} {c : TextCommand}
    (h : state.command? name = some c) : c.canonicalName = name := by
  simpa using List.find?_some h

/-- Where no two commands have the same name, each is found by its own. -/
lemma State.command?_of_mem (hnames : (state.commands.map TextCommand.canonicalName).Nodup)
    {c : TextCommand} (hc : c ∈ state.commands) : state.command? c.canonicalName = some c := by
  obtain ⟨before, after, hcommands⟩ := List.append_of_mem hc
  rw [hcommands, List.map_append, List.map_cons, List.nodup_append] at hnames
  refine List.find?_eq_some_iff_append.mpr ⟨by simp, before, after, hcommands, fun d hd => ?_⟩
  simpa using hnames.2.2 _ (List.mem_map_of_mem hd) _ List.mem_cons_self

namespace Commands

/-- The commands that a sentence calls are those of the state. -/
lemma mem_extract {α : Type} [Bar α] {thresholds : Thresholds α} {s : Sentence} {c : TextCommand}
    (h : c ∈ (extract thresholds state s).1) : c ∈ state.commands := by
  unfold extract at h
  split at h
  · contradiction
  · split at h
    · contradiction
    · split at h
      · contradiction
      · next command hcommand =>
          rcases List.mem_cons.mp h with rfl | h
          · exact State.mem_of_command? hcommand
          · simp only [alternates, List.mem_mergeSort, List.mem_filterMap] at h
            obtain ⟨name, -, hname⟩ := h
            exact State.mem_of_command? hname

/-- Taking the calls of commands out of a sentence leaves its other readings. -/
lemma allTokens_extract {α : Type} [Bar α] {I : Token → Prop} {thresholds : Thresholds α}
    {s : Sentence} (hs : s.AllTokens I) : (extract thresholds state s).2.AllTokens I := by
  rcases sentence_extract thresholds state s with h | h
  · rwa [h]
  · rw [h]
    intro p hp t ht
    obtain ⟨q, hq, rfl⟩ := List.mem_map.mp hp
    exact hs q hq t (Phrase.mem_tokens_retain.mp ht).1

end Commands

/-! ### Matches -/

namespace CommandMatch

/-- The players, maps, items and commands of the match are those of the state. -/
structure Within (state : State) (m : CommandMatch) : Prop where
  players : ∀ p ∈ m.players, state.Knows p
  maps : ∀ n ∈ m.maps, n ∈ state.maps
  items : ∀ i ∈ m.items, i ∈ state.items
  commands : ∀ c ∈ m.commands, c ∈ state.commands

variable {m : CommandMatch}

lemma Within.addPlayers (hm : m.Within state) {players : List Player}
    (h : ∀ p ∈ players, state.Knows p) : (m.addPlayers players).Within state where
  __ := hm
  players p hp := (mem_of_mem_unionBy hp).elim (hm.players p) (h p)

/-- A time changes neither things nor commands. -/
lemma Within.addTime (hm : m.Within state) (now : Instant) (p : TimePattern) :
    (m.addTime now p).Within state := by
  unfold CommandMatch.addTime
  cases p.use <;> dsimp only <;> split <;> exact ⟨hm.players, hm.maps, hm.items, hm.commands⟩

/-- One more token adds what its value holds. -/
lemma Within.absorb (hm : m.Within state) {t : Token} (ht : t.Within state) :
    (m.absorb state t).Within state := by
  unfold CommandMatch.absorb
  split
  · next list _ hv => exact hm.addPlayers (ht _ hv)
  · exact hm.addPlayers fun p hp => .inr (Option.mem_toList.mp hp)
  · exact hm.addPlayers fun p hp => .inl (List.mem_of_mem_filter hp)
  · next list _ hv =>
      exact { hm with maps := fun n hn => (mem_of_mem_unionBy hn).elim (hm.maps n) (ht _ hv n) }
  · next list _ hv =>
      exact { hm with items := fun i hi => (mem_of_mem_unionBy hi).elim (hm.items i) (ht _ hv i) }
  · exact ⟨hm.players, hm.maps, hm.items, hm.commands⟩
  · exact ⟨hm.players, hm.maps, hm.items, hm.commands⟩
  · exact hm.addTime _ _
  · exact hm

lemma within_assemble {mark : String} {commands : List TextCommand} {s : Sentence}
    (hcommands : ∀ c ∈ commands, c ∈ state.commands) (hs : s.AllTokens (Token.Within state)) :
    (assemble mark commands s state).Within state := by
  have hbest : ∀ t ∈ s.filterMap Phrase.best?, t.Within state := by
    intro t ht
    obtain ⟨p, hp, hpt⟩ := List.mem_filterMap.mp ht
    exact hs p hp t (List.mem_of_mem_head? hpt)
  have hstart : Within state { mark, commands, speaker := state.speaker } :=
    ⟨by simp, by simp, by simp, hcommands⟩
  -- The invariant of the fold: what has been absorbed so far is of the state.
  have hfold (tokens : List Token) (m : CommandMatch) (hm : m.Within state)
      (h : ∀ t ∈ tokens, t.Within state) : (tokens.foldl (absorb state) m).Within state := by
    induction tokens generalizing m with
    | nil => exact hm
    | cons t tokens ih =>
        exact ih _ (hm.absorb (h t List.mem_cons_self)) fun u hu => h u (List.mem_cons_of_mem _ hu)
  exact hfold _ _ hstart hbest

end CommandMatch

namespace Parser

/-- A match is assembled from the reduced sentence and the commands that the read one calls. -/
lemma eq_assemble_of_parseRead {parser : Parser} {mark : String} {s : Sentence} {m : CommandMatch}
    (h : parser.parseRead mark state s = .ok (some m)) :
    m = .assemble mark (Commands.extract parser.config.thresholds state s).1
      ((Commands.extract parser.config.thresholds state s).2.reduce (parser.context state)).sentence
      state := by
  dsimp only [parseRead] at h
  generalize Commands.extract parser.config.thresholds state s = extracted at h ⊢
  generalize extracted.2.reduce (parser.context state) = reduced at h ⊢
  split at h
  · simp at h
  · split at h
    · contradiction
    · exact (Option.some.inj (Except.ok.inj h)).symm

/-- An input that is not given up is read to the end, and its match is that of what reading leaves.
An input without words has no match, as a sentence without phrases has none. -/
lemma parseRead_of_ok {parser : Parser} {mark text : String} {found : Option CommandMatch}
    (h : parser.parse mark text state = .ok found) :
    ((Sentence.ofWords (splitWords text)).readStages (parser.context state)).fault? = none
      ∧ parser.parseRead mark state
        ((Sentence.ofWords (splitWords text)).readStages (parser.context state)).sentence
          = .ok found := by
  have hwords : parser.parseWords mark state (splitWords text) = .ok found := by
    unfold parse at h
    cases hp : parser.parseWords mark state (splitWords text) with
    | error fault => simp [hp, Except.mapError] at h
    | ok found => simpa [hp, Except.mapError] using h
  dsimp only [parseWords] at hwords
  split at hwords
  · next hempty =>
      rw [List.isEmpty_iff.mp hempty, Sentence.ofWords, List.map_nil, Sentence.readStages_nil]
      exact ⟨rfl, hwords⟩
  · split at hwords
    · cases hwords
    · split at hwords
      · cases hwords
      · next hfault => exact ⟨hfault, hwords⟩

/-- A match is that of the words of the input after all stages. -/
lemma parseRead_of_parse {parser : Parser} {mark text : String} {m : CommandMatch}
    (h : parser.parse mark text state = .ok (some m)) :
    parser.parseRead mark state
      ((Sentence.ofWords (splitWords text)).readStages (parser.context state)).sentence
        = .ok (some m) :=
  (parseRead_of_ok h).2

/-- **Everything in a match comes from the state**: whatever the input, the vocabulary and the
configuration, its players are connected or speak, and its maps, items and commands are there. -/
theorem within_of_parse {catalog : Catalog} {config : Config} {mark text : String}
    {m : CommandMatch} (h : parse ⟨catalog, .standard, config⟩ mark text state = .ok (some m)) :
    m.Within state := by
  have hctx := keeps_within catalog config state
  have hread := Sentence.allTokens_readStages hctx
    (Sentence.allTokens_ofWords (splitWords text))
  rw [eq_assemble_of_parseRead (parseRead_of_parse h)]
  exact CommandMatch.within_assemble (fun c hc => Commands.mem_extract hc)
    (Sentence.allTokens_reduce hctx (Commands.allTokens_extract hread))

/-- What a test of the result of a run finds is so of a match that was found. -/
lemma exists_of_any_parse {parser : Parser} {mark text : String} {state : State}
    {p : CommandMatch → Bool} (h : (parser.parse mark text state).toOption.join.any p = true) :
    ∃ m, parser.parse mark text state = .ok (some m) ∧ p m = true := by
  cases hparse : parser.parse mark text state with
  | error e =>
      rw [hparse] at h
      contradiction
  | ok found =>
      rw [hparse] at h
      cases found with
      | none => contradiction
      | some m => exact ⟨m, rfl, h⟩

/-- A command that is called by its only word. -/
theorem exists_within_of_parse :
    ∃ state m, parse ⟨.empty, .standard, {}⟩ "!" "kick" state = .ok (some m)
      ∧ m.commands = state.commands ∧ m.Within state := by
  let state : State :=
    { commands := [{ canonicalName := "kick", aliases := ["kick"] }], now := ⟨0⟩ }
  have hfound : (parse ⟨.empty, .standard, {}⟩ "!" "kick" state).toOption.join.any fun m =>
      m.commands = state.commands := by
    decide +kernel
  obtain ⟨m, h, hcommands⟩ := exists_of_any_parse hfound
  exact ⟨state, m, h, of_decide_eq_true hcommands, within_of_parse h⟩

end Parser

end ChatCommand

/-
The words that call a command, in the rest of the match.

Only the calls are taken out of a sentence before it is reduced. Another reading of the phrase that
calls the command stays, and it alone has a part in the match.

* `Commands.otherReading?`: the preferred reading of a phrase beside its calls;
* `Commands.exists_of_primary?`, `Commands.extract_of_ne_nil`: the primary token is one of a phrase,
  and where a command is called all calls are taken out;
* `Commands.extract_singleton`: a phrase with one call;
* `Parser.Yields`: a match is made from a sentence without calls;
* `Parser.yields_of_parse`: **a match is made from the sentence without its calls, and the phrase of
  the primary one might as well be left out, or hold its other reading alone**.
-/
import ChatCommand.Proofs.Recognition.Primary
import ChatCommand.Proofs.Sentence.Decided

namespace ChatCommand

variable {state : State} {s : Sentence}

/-! ### Calls -/

namespace Commands

/-- The preferred reading of the phrase beside the commands it calls. -/
def otherReading? (p : Phrase) : Option Token := (p.retain fun t => !isMethod t).best?

/-- The primary token is a call in the phrase with its number. -/
lemma exists_of_primary? {i : Nat} {t : Token} (h : primary? s = some (i, t)) :
    ∃ p, s[i]? = some p ∧ t ∈ p.tokens ∧ isMethod t = true := by
  have hmem : (i, t) ∈ methodTokens s := by
    unfold primary? at h
    cases hlist : methodTokens s with
    | nil => simp [hlist] at h
    | cons first rest =>
        rw [hlist] at h
        obtain ⟨before, after, hsplit, -, -⟩ := exists_of_foldl_preferred h
        simp [hsplit]
  obtain ⟨⟨p, j⟩, hp, ht⟩ := List.mem_flatMap.mp hmem
  obtain ⟨u, hu, heq⟩ := List.mem_map.mp ht
  obtain ⟨rfl, rfl⟩ := Prod.mk.inj heq
  obtain ⟨htokens, hmethod⟩ := List.mem_filter.mp hu
  exact ⟨p, List.mem_zipIdx_iff_getElem?.mp hp, htokens, hmethod⟩

/-- Where a command is called there is a primary token, and all calls are taken out. -/
lemma extract_of_ne_nil {thresholds : Thresholds Float32}
    (h : (extract thresholds state s).1 ≠ []) :
    (∃ i t, primary? s = some (i, t)) ∧ (extract thresholds state s).2 = withoutMethods s := by
  unfold extract at h ⊢
  cases hprimary : primary? s with
  | none => simp [hprimary] at h
  | some entry =>
      obtain ⟨i, t⟩ := entry
      refine ⟨⟨i, t, rfl⟩, ?_⟩
      simp only [hprimary] at h ⊢
      split at h
      · contradiction
      · split at h
        · contradiction
        · rfl

/-- A phrase that calls one command alone has this as its primary command and no alternate. -/
lemma extract_singleton (thresholds : Thresholds Float32) {p : Phrase} {text : String}
    {c : TextCommand} (hcalls : p.tokens.filter isMethod = [Names.methodToken text c])
    (hc : state.command? c.canonicalName = some c) :
    primary? [p] = some (0, Names.methodToken text c)
      ∧ extract thresholds state [p] = ([c], withoutMethods [p]) := by
  have hmethods : methodTokens [p] = [(0, Names.methodToken text c)] := by
    simp [methodTokens, hcalls]
  have hprimary : primary? [p] = some (0, Names.methodToken text c) := by
    rw [primary?, hmethods]
    rfl
  have hcandidates : ∀ name ∈ candidates thresholds 0 [p], name = c.canonicalName := by
    intro name hname
    rw [candidates, hmethods] at hname
    obtain ⟨entry, hentry, hsome⟩ := List.mem_filterMap.mp hname
    obtain rfl := List.mem_singleton.mp hentry
    exact (Option.some.inj (Option.ite_none_left_eq_some.mp hsome).2).symm
  have halternates : alternates state c.canonicalName (candidates thresholds 0 [p]) = [] := by
    have hothers : (candidates thresholds 0 [p]).eraseDups.filter (· != c.canonicalName) = [] :=
      List.filter_eq_nil_iff.mpr fun name hname => by
        simp [hcandidates name (List.mem_eraseDups.mp hname)]
    simp [alternates, hothers]
  have hname : (Names.methodToken text c).name = some c.canonicalName := rfl
  exact ⟨hprimary, by simp only [extract, hprimary, hname, hc, halternates]⟩

/-- No call is left. -/
lemma isMethod_of_mem_withoutMethods {p : Phrase} (hp : p ∈ withoutMethods s) {t : Token}
    (ht : t ∈ p.tokens) : isMethod t = false := by
  obtain ⟨q, -, rfl⟩ := List.mem_map.mp hp
  simpa using (Phrase.mem_tokens_retain.mp ht).2

end Commands

open Commands (isMethod otherReading? primary? withoutMethods)

/-! ### Leaving a phrase out -/

namespace Sentence

/-- What stands before a phrase and behind it. -/
lemma exists_split {i : Nat} {p : Phrase} (h : s[i]? = some p) :
    ∃ before after, s = before ++ p :: after ∧ before.length = i := by
  obtain ⟨hi, rfl⟩ := List.getElem?_eq_some_iff.mp h
  refine ⟨s.take i, s.drop (i + 1), ?_, List.length_take_of_le (Nat.le_of_lt hi)⟩
  rw [List.getElem_cons_drop, List.take_append_drop]

/-- A phrase in which nothing is read may be left out. -/
lemma withoutUnread_eraseIdx {p : Phrase} {i : Nat} (hp : s[i]? = some p)
    (hunread : p.isUnread = true) : withoutUnread (s.eraseIdx i) = s.withoutUnread := by
  obtain ⟨before, after, rfl, rfl⟩ := exists_split hp
  rw [List.eraseIdx_append_of_length_le (Nat.le_refl _), Nat.sub_self, List.eraseIdx_cons_zero]
  simp [withoutUnread, hunread]

/-- A phrase may give way to one with the same preferred reading of the same span. -/
lemma map_decided_set {p q : Phrase} {i : Nat} (hp : s[i]? = some p) (h : q.decided = p.decided) :
    (s.set i q).map Phrase.decided = s.map Phrase.decided := by
  obtain ⟨before, after, rfl, rfl⟩ := exists_split hp
  rw [List.set_append_right _ _ (Nat.le_refl _), Nat.sub_self, List.set_cons_zero]
  simp [h]

end Sentence

/-! ### Matches -/

namespace Parser

variable {parser : Parser} {mark : String} {m : CommandMatch} {s' : Sentence}

/-- The sentence is reduced to the end, and the match is what it says then, beside the commands. -/
structure Yields (parser : Parser) (mark : String) (state : State) (s : Sentence)
    (m : CommandMatch) : Prop where
  fault : (s.reduce (parser.context state)).fault? = none
  eq_assemble : m = .assemble mark m.commands (s.reduce (parser.context state)).sentence state

/-- Phrases in which nothing is read have no part in the match. -/
lemma Yields.of_withoutUnread_eq (hs : parser.Yields mark state s m)
    (h : s'.withoutUnread = s.withoutUnread) : parser.Yields mark state s' m := by
  have hreduce : s'.reduce (parser.context state) = s.reduce (parser.context state) := by
    rw [Sentence.reduce, h, ← Sentence.reduce]
  exact ⟨hreduce ▸ hs.fault, hreduce ▸ hs.eq_assemble⟩

/-- Readings that are not preferred have no part in the match. -/
lemma Yields.of_map_decided_eq (hs : parser.Yields mark state s m)
    (h : s'.map Phrase.decided = s.map Phrase.decided) : parser.Yields mark state s' m where
  fault := by
    have hreduced := Sentence.reduce_map_decided (parser.context state) s'
    rw [h, Sentence.reduce_map_decided, Progress.mk.injEq] at hreduced
    rw [← hreduced.2, hs.fault]
  eq_assemble := by
    rw [CommandMatch.assemble_reduce_congr h]
    exact hs.eq_assemble

/-- A match is made from the sentence without its calls. -/
lemma yields_of_parseRead (h : parser.parseRead mark state s = .ok (some m)) :
    parser.Yields mark state (withoutMethods s) m ∧ ∃ i t, primary? s = some (i, t) := by
  have hcommands := commands_of_parseRead h
  have hmatch := eq_assemble_of_parseRead h
  have hne : (Commands.extract parser.config.thresholds state s).1 ≠ [] := by
    intro hnil
    simp [hnil] at hcommands
  obtain ⟨hprimary, hwithout⟩ := Commands.extract_of_ne_nil hne
  rw [hwithout] at hmatch
  refine ⟨⟨?_, ?_⟩, hprimary⟩
  · dsimp only [parseRead] at h
    rw [hwithout, if_neg (by simpa using hne)] at h
    split at h
    · contradiction
    · assumption
  · have hm : m.commands = (Commands.extract parser.config.thresholds state s).1 := by
      rw [hmatch, CommandMatch.commands_assemble]
    rwa [hm]

/-- An input that is read and reduced to the end has a match if it calls a command. -/
lemma parse_eq_ok {text : String} {rest : Sentence} {commands : List TextCommand}
    (hwords : splitWords text ≠ [])
    (hlength : (splitWords text).length ≤ parser.config.wordLimit)
    (hread : (Sentence.ofWords (splitWords text)).readStages (parser.context state)
      = { sentence := s })
    (hextract : Commands.extract parser.config.thresholds state s = (commands, rest))
    (hcommands : commands ≠ [])
    (hreduce : (rest.reduce (parser.context state)).fault? = none) :
    parser.parse mark text state = .ok (some (.assemble mark commands
      (rest.reduce (parser.context state)).sentence state)) := by
  have hsentence : parser.parseRead mark state s = .ok (some (.assemble mark commands
      (rest.reduce (parser.context state)).sentence state)) := by
    simp only [parseRead, hextract, hreduce]
    rw [if_neg (by simpa using hcommands)]
  rw [parse, parseWords, if_neg (by simpa using hwords), if_neg (by omega), hread]
  simp only [hsentence]
  rfl

/-- **The words that call a command are not read again as calls.** A match says, beside its
commands, what the sentence comes to that is left when all calls are taken out of the phrases that
the stages have read. Let the primary call be one of the phrase at `i`. If nothing else is read in
that phrase, the match says the same as without the phrase. Else its words have a part in the match
through their preferred other reading alone. -/
theorem yields_of_parse {text : String} (h : parser.parse mark text state = .ok (some m)) :
    let read := ((Sentence.ofWords (splitWords text)).readStages (parser.context state)).sentence
    parser.Yields mark state (withoutMethods read) m
      ∧ (∀ p ∈ withoutMethods read, ∀ t ∈ p.tokens, isMethod t = false)
      ∧ ∃ i t p, primary? read = some (i, t) ∧ read[i]? = some p ∧ t ∈ p.tokens
        ∧ (otherReading? p = none →
            parser.Yields mark state ((withoutMethods read).eraseIdx i) m)
        ∧ ∀ u, otherReading? p = some u →
            parser.Yields mark state ((withoutMethods read).set i (.ofToken p.text u)) m := by
  intro read
  obtain ⟨hyields, i, t, hprimary⟩ := yields_of_parseRead (parseRead_of_parse h)
  obtain ⟨p, hp, ht, -⟩ := Commands.exists_of_primary? hprimary
  have hwithout : (withoutMethods read)[i]? = some (p.retain fun t => !isMethod t) := by
    rw [withoutMethods, List.getElem?_map, hp]
    rfl
  refine ⟨hyields, fun q hq u hu => Commands.isMethod_of_mem_withoutMethods hq hu,
    i, t, p, hprimary, hp, ht, fun hnone => ?_, fun u hu => ?_⟩
  · refine hyields.of_withoutUnread_eq (Sentence.withoutUnread_eraseIdx hwithout ?_)
    simpa [otherReading?, Phrase.best?, Phrase.isUnread] using hnone
  · refine hyields.of_map_decided_eq (Sentence.map_decided_set hwithout ?_)
    have hbest : (p.retain fun t => !isMethod t).best? = some u := hu
    rw [Phrase.decided_ofToken, Phrase.decided, hbest]
    rfl

/-- A word that calls a command and is nothing else: the match says the same without it. -/
theorem exists_yields_of_parse :
    ∃ state m p, parse ⟨.empty, .standard, {}⟩ "!" "kick" state = .ok (some m)
      ∧ m.commands = state.commands
      ∧ ((Sentence.ofWords (splitWords "kick")).readStages
          (context ⟨.empty, .standard, {}⟩ state)).sentence[0]? = some p
      ∧ otherReading? p = none
      ∧ Yields ⟨.empty, .standard, {}⟩ "!" state
          ((withoutMethods ((Sentence.ofWords (splitWords "kick")).readStages
            (context ⟨.empty, .standard, {}⟩ state)).sentence).eraseIdx 0) m := by
  let state : State :=
    { commands := [{ canonicalName := "kick", aliases := ["kick"] }], now := ⟨0⟩ }
  have hfound : (parse ⟨.empty, .standard, {}⟩ "!" "kick" state).toOption.join.any fun m =>
      m.commands = state.commands := by
    decide +kernel
  have hplace : (primary? ((Sentence.ofWords (splitWords "kick")).readStages
      (context ⟨.empty, .standard, {}⟩ state)).sentence).map Prod.fst = some 0 := by
    decide +kernel
  have hother : (((Sentence.ofWords (splitWords "kick")).readStages
      (context ⟨.empty, .standard, {}⟩ state)).sentence[0]?.bind otherReading?).isNone := by
    decide +kernel
  obtain ⟨m, h, hcommands⟩ := exists_of_any_parse hfound
  obtain ⟨-, -, i, t, p, hprimary, hp, -, hnone, -⟩ := yields_of_parse h
  obtain rfl : i = 0 := by simpa [hprimary] using hplace
  have hother : otherReading? p = none := by simpa [hp] using hother
  exact ⟨state, m, p, h, of_decide_eq_true hcommands, hp, hother, hnone hother⟩

/-- Where a player has the name of a command, the word that calls the command is still read as the
player. -/
theorem not_yields_eraseIdx :
    ∃ state m, parse ⟨.empty, .standard, {}⟩ "!" "kick" state = .ok (some m)
      ∧ (primary? ((Sentence.ofWords (splitWords "kick")).readStages
          (context ⟨.empty, .standard, {}⟩ state)).sentence).map Prod.fst = some 0
      ∧ m.players = state.players ∧ state.players ≠ []
      ∧ ¬Yields ⟨.empty, .standard, {}⟩ "!" state
          (((Sentence.ofWords (splitWords "kick")).readStages
            (context ⟨.empty, .standard, {}⟩ state)).sentence.eraseIdx 0) m := by
  let kick : TextCommand := { canonicalName := "kick", aliases := ["kick"] }
  let state : State :=
    { players := [{ uid := "1", name := "kick" }], commands := [kick], now := ⟨0⟩ }
  let ctx : Context := context ⟨.empty, .standard, {}⟩ state
  let p : Phrase := ctx.tokenizeText .reduction "kick"
  have hwords : splitWords "kick" = ["kick"] := by decide +kernel
  have hread : (Sentence.ofWords (splitWords "kick")).readStages ctx = { sentence := [p] } := by
    rw [hwords, Sentence.readStages_ofWords_singleton]
  -- The calls of the word and its other readings are ranked apart.
  have hcalls : p.tokens.filter isMethod = [Names.methodToken "kick" kick] := by
    have hclose : (state.commands.filter fun c => Bar.reachedBy
        (Config.thresholds {}).method (Names.methodSimilarity "kick" c)) = [kick] := by
      decide +kernel
    rw [filter_isMethod_tokenizeText (by decide), Names.methods_eq_map, hclose, List.map_singleton,
      List.mergeSort_singleton]
  obtain ⟨hprimary, hextract⟩ := Commands.extract_singleton (Config.thresholds {}) hcalls
    (show state.command? kick.canonicalName = some kick by decide +kernel)
  have hothers : withoutMethods [p] = [Stage.all.foldl (fun p stage => p.extend
      ((ctx.tokensFor stage "kick").filter fun t => !isMethod t)) { text := "kick" }] :=
    congrArg (fun q => [q])
      (Context.retain_tokenizeText (fun a b h => by rw [Commands.isMethod_congr h]) .reduction
        "kick")
  have hreduce : ((withoutMethods [p]).reduce ctx).fault? = none := by
    rw [hothers]
    decide +kernel
  obtain ⟨m, hmatch⟩ : ∃ m : CommandMatch,
      m = .assemble "!" [kick] ((withoutMethods [p]).reduce ctx).sentence state := ⟨_, rfl⟩
  have hparse : parse ⟨.empty, .standard, {}⟩ "!" "kick" state = .ok (some m) := by
    rw [hmatch]
    exact parse_eq_ok (by simp [hwords]) (by simp [hwords]) hread hextract (by simp) hreduce
  have hplayers : m.players = state.players := by
    rw [hmatch, hothers]
    decide +kernel
  have hnobody : (CommandMatch.assemble "!" m.commands
      (Sentence.reduce ctx (List.eraseIdx [p] 0)).sentence state).players = [] := by
    have hempty : (Sentence.reduce ctx (List.eraseIdx [p] 0)).sentence.isEmpty = true := by
      decide +kernel
    rw [List.isEmpty_iff.mp hempty]
    rfl
  refine ⟨state, m, hparse, ?_, hplayers, by decide, fun hyields => ?_⟩
  · rw [hread, hprimary]
    rfl
  · have hm := hyields.eq_assemble
    rw [hread] at hm
    have hnone : state.players = [] :=
      hplayers.symm.trans ((congrArg CommandMatch.players hm).trans hnobody)
    exact List.cons_ne_nil _ _ hnone

end Parser

end ChatCommand

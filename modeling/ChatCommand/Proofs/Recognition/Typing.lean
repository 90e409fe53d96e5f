/-
Well typed tokens from the words of an input to its match.

* `Token.IsRead.wellTyped`: what words and names are read as is well typed;
* `Parser.keeps_wellTyped`: so reading, merging and reducing make well typed tokens only;
* `Parser.Reaches`: the sentences on the way of an input, where rules may apply in any order;
* `Parser.reaches_of_mem_reductions`, `Parser.exists_reaches_of_parse`: reduction passes through
  such sentences, and a match is assembled from one;
* `Parser.wellTyped_of_reaches`: **they are well typed, no rule misses a value in them, and a match
  tells all of them**.
-/
import ChatCommand.Proofs.Recognition.Origin
import ChatCommand.Proofs.Recognition.Telling

namespace ChatCommand

open Token (WellTyped)

variable {state : State}

/-- Words and names that are read have the values that their variants promise. -/
lemma Token.IsRead.wellTyped {t : Token} (h : t.IsRead state) : t.WellTyped := by
  cases h with
  | bare hvariant hvalue => exact wellTyped_of_value_eq_none hvariant hvalue
  | things hvariant hvalue hv =>
      unfold WellTyped
      rw [hvariant]
      exact ⟨_, hvalue, hv.kind?_eq⟩
  | number hvariant hvalue | quotedText hvariant hvalue | time hvariant hvalue =>
      unfold WellTyped
      rw [hvariant]
      exact ⟨_, hvalue⟩

namespace Parser

/-- Words, expressions, names and rules give well typed tokens. -/
lemma keeps_wellTyped (catalog : Catalog) (config : Config) (state : State) :
    (context ⟨catalog, .standard, config⟩ state).Keeps WellTyped where
  read stage text t ht := by
    rcases isRead_of_mem_tokensFor ht with h | ⟨c, -, rfl⟩
    · exact h.wellTyped
    · exact ⟨c.canonicalName, rfl, rfl⟩
  rule _ hr := Rule.keeps_wellTyped hr

/-! ### Sentences on the way -/

/-- The sentences on the way of an input: its words, what reading passes through, what is left when
commands are called, and what rules make of that, one after another in any order. -/
inductive Reaches (parser : Parser) (state : State) (text : String) : Sentence → Prop
  | words : Reaches parser state text (.ofWords (splitWords text))
  | read {passage : Passage} {s : Sentence}
      (hpassage : passage ∈ (Sentence.ofWords (splitWords text)).history (parser.context state))
      (hs : s ∈ passage.sentences) : Reaches parser state text s
  | extract {s : Sentence} (hs : Reaches parser state text s) :
      Reaches parser state text (Commands.extract parser.config.thresholds state s).2
  | drop {s : Sentence} (hs : Reaches parser state text s) :
      Reaches parser state text s.withoutUnread
  | reduce {before window after : Sentence} {r : Rule} {t : Token}
      (hs : Reaches parser state text (before ++ (window ++ after)))
      (hr : r ∈ parser.grammar.rules) (ht : r.token? state window = some t) :
      Reaches parser state text (before ++ .ofToken (joinText window) t :: after)

variable {parser : Parser} {text : String} {s : Sentence}

/-- Reading leaves a sentence on the way, also where the budget ends a stage. -/
lemma reaches_readStages (parser : Parser) (state : State) (text : String) :
    parser.Reaches state text
      ((Sentence.ofWords (splitWords text)).readStages (parser.context state)).sentence := by
  obtain ⟨last, hlast, hend, -⟩ := Sentence.exists_getLast?_history (parser.context state)
    (.ofWords (splitWords text))
  exact .read (List.mem_of_getLast? hlast) (List.mem_of_getLast? hend)

/-- Reduction passes through sentences on the way only. -/
lemma reaches_of_mem_reductions (hs : parser.Reaches state text s) :
    ∀ s' ∈ s.reductions (parser.context state), parser.Reaches state text s' := by
  refine Sentence.reductions_induction (fun s s' hs h => ?_) hs.drop
  obtain ⟨before, window, after, r, t, rfl, hr, -, ht, rfl⟩ := Sentence.exists_of_reductionStep? h
  exact hs.reduce hr ht

/-- A match is assembled from a sentence on the way. -/
theorem exists_reaches_of_parse {mark : String} {m : CommandMatch}
    (h : parser.parse mark text state = .ok (some m)) :
    ∃ s commands, parser.Reaches state text s ∧ m = .assemble mark commands s state :=
  ⟨_, _, reaches_of_mem_reductions (reaches_readStages parser state text).extract _
    (List.mem_of_getLast? (Sentence.getLast?_reductions _ _)),
    eq_assemble_of_parseRead (parseRead_of_parse h)⟩

/-- **Tokens stay well typed**: on the way of an input every token has the value that its variant
promises, so no rule misses a value, and what is assembled from there tells all things, numbers,
quotes and times. -/
theorem wellTyped_of_reaches {catalog : Catalog} {config : Config}
    (h : Reaches ⟨catalog, .standard, config⟩ state text s) :
    s.AllTokens WellTyped
      ∧ (∀ r ∈ Grammar.standardRules, ∀ window b, window <:+: s →
          r.signature.bind? window = some b → r.IsProvided state b)
      ∧ ∀ mark commands,
        (CommandMatch.assemble mark commands s state).Tells state (s.filterMap Phrase.best?) := by
  have hctx := keeps_wellTyped catalog config state
  have hs : s.AllTokens WellTyped := by
    induction h with
    | words => exact Sentence.allTokens_ofWords _
    | read hpassage hs =>
        exact Sentence.history_invariant
          (fun stage _ hs => Sentence.allTokens_tokenize hctx hs stage)
          (fun _ _ _ hs h => Sentence.allTokens_mergeStep? hctx hs h)
          (Sentence.allTokens_ofWords _) _ hpassage _ hs
    | extract _ ih => exact Commands.allTokens_extract ih
    | drop _ ih => exact ih.withoutUnread
    | reduce _ hr ht ih => exact ih.replace hctx hr ht
  refine ⟨hs, fun r hr window b hwindow hbind => ?_, fun mark commands =>
    CommandMatch.tells_assemble mark commands hs⟩
  exact Rule.isProvided_of_bind? hr (fun p hp => hs p (hwindow.subset hp)) hbind

/-- Two numbers that are added are read as numbers and reduced to one. -/
theorem exists_wellTyped_of_reaches :
    ∃ catalog state s, Reaches ⟨catalog, .standard, {}⟩ state "two plus two" s
      ∧ s.map Phrase.text = ["two plus two"]
      ∧ s.flatMap (fun q => q.tokens.map Token.variant) = [.number]
      ∧ s.AllTokens WellTyped
      ∧ (CommandMatch.assemble "!" [] s state).Tells state (s.filterMap Phrase.best?) := by
  let catalog : Catalog := ⟨fun
    | .numeric => [{ literal := some "two", value := some (.integer 2) }]
    | .arithmetic => [{ literal := some "plus", name := some "Addition" }]
    | _ => []⟩
  let state : State := { now := ⟨0⟩ }
  let ctx := context ⟨catalog, .standard, {}⟩ state
  let read := ((Sentence.ofWords (splitWords "two plus two")).readStages ctx).sentence
  have hread : Reaches ⟨catalog, .standard, {}⟩ state "two plus two" read :=
    reaches_readStages _ _ _
  have hreached := reaches_of_mem_reductions hread _
    (List.mem_of_getLast? (Sentence.getLast?_reductions ctx read))
  obtain ⟨htyped, -, htells⟩ := wellTyped_of_reaches hreached
  refine ⟨catalog, state, _, hreached, ?_, ?_, htyped, htells "!" []⟩
  · decide +kernel
  · decide +kernel

end Parser

end ChatCommand

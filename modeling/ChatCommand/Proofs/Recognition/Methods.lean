/-
The commands that a phrase may call.

* `Names.filter_isMethod_recognizer`: names are read as commands in the stage of objects alone;
* `Parser.filter_isMethod_tokensFor`: a span is read as a command in the stage of objects alone,
  once for each command whose words are similar enough;
* `Context.retain_tokenizeText`: the readings of one kind of a span, by all stages;
* `Parser.filter_isMethod_tokenizeText`: **so the phrase of a span that all stages have read calls
  these commands, ranked and no others**, if commands have different names.
-/
import ChatCommand.Proofs.Phrase.Ranking
import ChatCommand.Proofs.Recognition.Readings

namespace ChatCommand

open Commands (isMethod)
open Phrase (extend extend_nil_extend tokens_extend_of_distinct)

/-! ### Readings -/

namespace Names

variable {α : Type} [Bar α] {thresholds : Thresholds α} {state : State} {text : String}

/-- Commands of different names are called by different tokens. -/
lemma pairwise_methods (hnames : (state.commands.map TextCommand.canonicalName).Nodup) :
    (methods thresholds state text).Pairwise fun a b => a.isEquivalent b = false := by
  rw [methods_eq_map, List.pairwise_map]
  refine List.Pairwise.filter _ ((List.pairwise_map.mp hnames).imp fun hne => ?_)
  simp [Token.isEquivalent, methodToken, hne]

lemma isMethod_of_mem_methods {t : Token} (h : t ∈ methods thresholds state text) :
    isMethod t = true := by
  rw [methods_eq_map] at h
  obtain ⟨c, -, rfl⟩ := List.mem_map.mp h
  rfl

/-- Names are read as commands in the stage of objects alone. -/
lemma filter_isMethod_recognizer (stage : Stage) :
    (recognizer thresholds state stage text).filter isMethod =
      if stage = .object then methods thresholds state text else [] := by
  rw [recognizer]
  split
  · rw [List.filter_append,
      List.filter_eq_nil_iff.mpr fun t ht => by
        simpa [isMethod] using (isRead_of_mem_things ht).variant_ne_method,
      List.filter_eq_self.mpr fun t ht => isMethod_of_mem_methods ht, List.nil_append]
  · rfl

end Names

/-! ### Phrases -/

/-- Tokens that mean the same both call a command or both do not. -/
lemma Commands.isMethod_congr {a b : Token} (h : a.isEquivalent b = true) :
    isMethod a = isMethod b := by
  simp only [Token.isEquivalent, Bool.and_eq_true, decide_eq_true_eq] at h
  simp [isMethod, h.1.1]

/-- Readings of one kind in the phrase of a span are those of this kind that the stages give it. -/
lemma Context.retain_tokenizeText {ctx : Context} {keep : Token → Bool}
    (hkeep : ∀ a b : Token, a.isEquivalent b = true → keep a = keep b) (through : Stage)
    (text : String) :
    (ctx.tokenizeText through text).retain keep
      = through.upTo.foldl (fun p stage => p.extend ((ctx.tokensFor stage text).filter keep))
          { text } := by
  have key (stages : List Stage) (p : Phrase) (hp : p.text = text) :
      (stages.foldl ctx.readPhrase p).retain keep
        = stages.foldl (fun p stage => p.extend ((ctx.tokensFor stage text).filter keep))
            (p.retain keep) := by
    induction stages generalizing p with
    | nil => rfl
    | cons stage stages ih =>
        rw [List.foldl_cons, List.foldl_cons, ih (ctx.readPhrase p stage) hp, readPhrase,
          Phrase.retain_extend hkeep, hp]
  exact key through.upTo { text } rfl

namespace Parser

variable {catalog : Catalog} {config : Config} {state : State} {text : String}

/-- A span is read as a command in the stage of objects alone. -/
lemma filter_isMethod_tokensFor (stage : Stage) :
    ((context ⟨catalog, .standard, config⟩ state).tokensFor stage text).filter isMethod =
      if stage = .object then Names.methods config.thresholds state text else [] := by
  have hwords : ∀ t ∈ (Family.all.filter fun f => f.stage = stage).flatMap
      ((context ⟨catalog, .standard, config⟩ state).familyTokens text), ¬isMethod t = true := by
    intro t ht
    obtain ⟨family, -, ht⟩ := List.mem_flatMap.mp ht
    obtain ⟨hit, -, ht⟩ := List.mem_filterMap.mp ht
    have hread : t.IsRead state := Family.isRead_of_reading ht
    simpa [isMethod] using hread.variant_ne_method
  rw [Context.tokensFor, List.filter_append, List.filter_eq_nil_iff.mpr hwords, List.nil_append]
  simpa [context] using Names.filter_isMethod_recognizer stage

/-- **The phrase of a span that all stages have read calls the commands whose words are similar
enough**, ranked and no others, if commands have different names. -/
theorem filter_isMethod_tokenizeText
    (hnames : (state.commands.map TextCommand.canonicalName).Nodup) :
    ((context ⟨catalog, .standard, config⟩ state).tokenizeText .reduction
        text).tokens.filter isMethod
      = (Names.methods config.thresholds state text).mergeSort Token.ranksBefore := by
  have hunread : extend { text } [] = { text } := by simp [extend]
  have hstages : Stage.upTo .reduction
      = [.primitive, .functionWord, .operator, .object, .reduction] := rfl
  have hretain : ((context ⟨catalog, .standard, config⟩ state).tokenizeText .reduction text).retain
      isMethod = extend { text } (Names.methods config.thresholds state text) := by
    rw [Context.retain_tokenizeText fun _ _ => Commands.isMethod_congr]
    simp [filter_isMethod_tokensFor, hstages, hunread, extend_nil_extend]
  calc _ = (extend { text } (Names.methods config.thresholds state text)).tokens :=
        congrArg Phrase.tokens hretain
    _ = _ := tokens_extend_of_distinct (Names.pairwise_methods hnames)

end Parser

end ChatCommand

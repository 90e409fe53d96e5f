/-
Reading stage by stage and at once.

A phrase that is never merged is read by one stage after the other, a merged one by all stages so
far when it comes about. Both have the same readings in the same order, since a stage reads nothing
but the text of a phrase.

* `Sentence.IsReadBy`: every phrase is what some stages make of its text at once;
* `Sentence.isReadBy_of_mem_history`: on the way through the stages the sentence is read by those it
  has gone through;
* `Sentence.readStages_ofWords_singleton`: a single word is read by all stages at once;
* `Sentence.eq_tokenizeText_of_mem_history`: **at every point of a stage each phrase has the
  readings of its text by all stages up to that one**, also where the budget ends the stage.
-/
import ChatCommand.Proofs.Sentence.History
import ChatCommand.Proofs.Sentence.Steps
import ChatCommand.Proofs.Sentence.Texts

namespace ChatCommand

variable {ctx : Context}

lemma Context.tokenizeText_eq_foldl (through : Stage) (text : String) :
    ctx.tokenizeText through text = through.upTo.foldl ctx.readPhrase { text } := rfl

namespace Sentence

/-- Every phrase is what these stages make of its text, one after the other. -/
def IsReadBy (ctx : Context) (stages : List Stage) (s : Sentence) : Prop :=
  ∀ p ∈ s, p = stages.foldl ctx.readPhrase { text := p.text }

lemma isReadBy_ofWords (words : List String) : (ofWords words).IsReadBy ctx [] := by
  intro p hp
  obtain ⟨word, -, rfl⟩ := List.mem_map.mp hp
  rfl

/-- Tokenizing reads every phrase by one stage more. -/
lemma IsReadBy.tokenize {s : Sentence} {stages : List Stage} (hs : s.IsReadBy ctx stages)
    (stage : Stage) : (s.tokenize ctx stage).IsReadBy ctx (stages ++ [stage]) := by
  intro p hp
  obtain ⟨q, hq, rfl⟩ := List.mem_map.mp hp
  have htext : (ctx.readPhrase q stage).text = q.text := rfl
  rw [htext, List.foldl_append, ← hs q hq]
  rfl

/-- A merged phrase is read by all stages up to the present one. -/
lemma IsReadBy.mergeStep? {s s' : Sentence} {stage : Stage} (hs : s.IsReadBy ctx stage.upTo)
    (h : s.mergeStep? ctx stage = some s') : s'.IsReadBy ctx stage.upTo := by
  obtain ⟨before, window, after, merged, rfl, -, hmerged, rfl⟩ := exists_of_mergeStep? h
  obtain ⟨hread, -⟩ := Context.merge?_eq_some_iff.mp hmerged
  refine forall_mem_replace hs ?_
  rw [← Context.tokenizeText_eq_foldl, hread, text_tokenizeText]

/-- On the way through the stages a sentence is read by those it has gone through. -/
lemma isReadBy_of_mem_history (words : List String) :
    ∀ passage ∈ (ofWords words).history ctx, ∀ s ∈ passage.sentences,
      s.IsReadBy ctx passage.stage.upTo :=
  history_induction (fun _ stage _ hupTo hs => hupTo ▸ hs.tokenize stage)
    (fun _ _ _ hs h => hs.mergeStep? h) (isReadBy_ofWords words)

/-- After all stages each phrase is its text as all stages read it at once. -/
lemma eq_tokenizeText_of_readStages {words : List String}
    (h : ((ofWords words).readStages ctx).fault? = none) :
    ∀ p ∈ ((ofWords words).readStages ctx).sentence, p = ctx.tokenizeText .reduction p.text := by
  obtain ⟨last, hlast, hend, hstage⟩ := exists_getLast?_history ctx (ofWords words)
  have hread := isReadBy_of_mem_history words last (List.mem_of_getLast? hlast) _
    (List.mem_of_getLast? hend)
  rwa [hstage h] at hread

/-- A single word is read by all stages, and there is nothing to merge. -/
lemma readStages_ofWords_singleton (ctx : Context) (word : String) :
    (ofWords [word]).readStages ctx = { sentence := [ctx.tokenizeText .reduction word] } := by
  have hmerge (p : Phrase) (stage : Stage) : mergeStep? ctx stage [p] = none := rfl
  have hstage (p : Phrase) (stage : Stage) :
      stageStep ctx [p] stage = { sentence := [ctx.readPhrase p stage] } := by
    have htokens : tokenize ctx stage [p] = [ctx.readPhrase p stage] := rfl
    rw [stageStep, htokens, refactor, Repetition.run_of_eq_none (hmerge _ stage)]
    split <;> rfl
  have key (stages : List Stage) (p : Phrase) :
      stages.foldl (continueWith ctx) { sentence := [p] }
        = { sentence := [stages.foldl ctx.readPhrase p] } := by
    induction stages generalizing p with
    | nil => rfl
    | cons stage stages ih => rw [foldl_continueWith_cons, hstage, ih, List.foldl_cons]
  exact key Stage.all { text := word }

/-- **Reading stage by stage and at once agree**: at every point of a stage, from tokenizing on and
through all merges, each phrase has exactly the ranked readings of its text by all stages up to that
one. The last such point is what reading leaves behind, also where the budget ends a stage. -/
theorem eq_tokenizeText_of_mem_history (ctx : Context) (words : List String) :
    (∀ passage ∈ (ofWords words).history ctx, ∀ s ∈ passage.sentences, ∀ p ∈ s,
        p = ctx.tokenizeText passage.stage p.text)
      ∧ ∃ last, ((ofWords words).history ctx).getLast? = some last
        ∧ last.sentences.getLast? = some ((ofWords words).readStages ctx).sentence
        ∧ (((ofWords words).readStages ctx).fault? = none → last.stage = .reduction) :=
  ⟨isReadBy_of_mem_history words, exists_getLast?_history ctx (ofWords words)⟩

end Sentence

end ChatCommand

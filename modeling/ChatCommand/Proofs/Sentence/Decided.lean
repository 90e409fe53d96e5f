/-
Reduction looks at preferred readings alone.

A rule is given the preferred readings of its window and the joined text, and leaves a phrase with
one reading. So what is ranked behind in a phrase has no part in reduction.

* `Phrase.decided`: a phrase with its preferred reading alone;
* `Rule.token?_map_decided`, `Sentence.reductionStep?_map_decided`: a rule makes the same of such
  phrases, and so does one reduction;
* `Sentence.reduce_map_decided`: **reduction commutes with deciding every phrase**;
* `CommandMatch.assemble_reduce_congr`: sentences that are decided alike make the same match.
-/
import ChatCommand.Proofs.Sentence.Steps
import ChatCommand.Recognition.Match

namespace ChatCommand

/-! ### Phrases -/

namespace Phrase

/-- The phrase with its preferred reading alone. -/
def decided (p : Phrase) : Phrase := { p with tokens := p.best?.toList }

@[simp]
lemma text_decided (p : Phrase) : p.decided.text = p.text := rfl

@[simp]
lemma best?_decided (p : Phrase) : p.decided.best? = p.best? := by
  simp only [decided, best?]
  cases p.tokens.head? <;> rfl

@[simp]
lemma isUnread_decided (p : Phrase) : p.decided.isUnread = p.isUnread := by
  obtain ⟨text, tokens⟩ := p
  cases tokens <;> rfl

lemma decided_ofToken (text : String) (t : Token) : (ofToken text t).decided = ofToken text t := rfl

end Phrase

lemma joinText_map_decided (window : List Phrase) :
    joinText (window.map Phrase.decided) = joinText window := by
  rw [joinText, joinText, List.foldl_map]
  rfl

lemma Signature.bind?_map_decided (s : Signature) (window : List Phrase) :
    s.bind? (window.map Phrase.decided) = s.bind? window := by
  have hbest (window : List Phrase) :
      (window.map Phrase.decided).mapM Phrase.best? = window.mapM Phrase.best? := by
    induction window with
    | nil => rfl
    | cons p window ih =>
        rw [List.map_cons, List.mapM_cons, List.mapM_cons, ih, Phrase.best?_decided]
  simp only [bind?, List.length_map, hbest, joinText_map_decided]

/-- A rule makes the same of decided phrases. -/
lemma Rule.token?_map_decided (r : Rule) (state : State) (window : List Phrase) :
    r.token? state (window.map Phrase.decided) = r.token? state window := by
  rw [token?, token?, Signature.bind?_map_decided]

/-! ### Sentences -/

namespace Sentence

variable {ctx : Context}

lemma reductionAt?_map_decided (state : State) (rules : List Rule) (s : Sentence)
    (count offset : Nat) :
    reductionAt? state rules (s.map Phrase.decided) count offset
      = reductionAt? state rules s count offset := by
  have hwindow : window (s.map Phrase.decided) offset count
      = (s.window offset count).map Phrase.decided := by
    rw [window, window, List.map_take, List.map_drop]
  simp only [reductionAt?, hwindow, Rule.token?_map_decided, joinText_map_decided]

lemma findReduction?_map_decided (s : Sentence) :
    findReduction? ctx (s.map Phrase.decided) = s.findReduction? ctx := by
  have hat (tier : Tier) (count : Nat) :
      reductionBy? ctx (s.map Phrase.decided) tier count = s.reductionBy? ctx tier count := by
    have hoffsets : offsets (s.map Phrase.decided) count = s.offsets count := by
      simp only [offsets, List.length_map]
    rw [reductionBy?, reductionBy?, hoffsets]
    exact congrArg (List.findSome? · _)
      (funext fun offset => reductionAt?_map_decided ctx.state _ s count offset)
  have htier (tier : Tier) :
      reductionBy? ctx (s.map Phrase.decided) tier = s.reductionBy? ctx tier := funext (hat tier)
  simp only [findReduction?, htier]

/-- One reduction makes the same of decided phrases, since it leaves a phrase with one reading. -/
lemma reductionStep?_map_decided (s : Sentence) :
    (s.reductionStep? ctx).map (List.map Phrase.decided)
      = reductionStep? ctx (s.map Phrase.decided) := by
  rw [reductionStep?, reductionStep?, findReduction?_map_decided, Option.map_map]
  cases h : s.findReduction? ctx with
  | none => rfl
  | some r =>
      obtain ⟨-, -, t, -, -, -, hphrase⟩ := exists_of_findReduction? h
      have hphrase : r.phrase.decided = r.phrase := by rw [hphrase, Phrase.decided_ofToken]
      simp [splice, hphrase, List.map_take, List.map_drop]

/-- **Reduction commutes with deciding every phrase.** -/
theorem reduce_map_decided (ctx : Context) (s : Sentence) :
    reduce ctx (s.map Phrase.decided)
      = { sentence := (s.reduce ctx).sentence.map Phrase.decided
          fault? := (s.reduce ctx).fault? } := by
  have hunread : withoutUnread (s.map Phrase.decided) = s.withoutUnread.map Phrase.decided := by
    rw [withoutUnread, withoutUnread, List.filter_map]
    simp only [Function.comp_def, Phrase.isUnread_decided]
  rw [reduce, reduce, hunread, Repetition.map_run reductionStep?_map_decided]
  rfl

end Sentence

/-! ### Matches -/

namespace CommandMatch

lemma assemble_map_decided (mark : String) (commands : List TextCommand) (s : Sentence)
    (state : State) :
    assemble mark commands (s.map Phrase.decided) state = assemble mark commands s state := by
  rw [assemble, assemble, List.filterMap_map]
  simp only [Function.comp_def, Phrase.best?_decided]

/-- Sentences with the same preferred readings of the same spans make the same match. -/
theorem assemble_reduce_congr {ctx : Context} {s s' : Sentence}
    (h : s.map Phrase.decided = s'.map Phrase.decided) (mark : String)
    (commands : List TextCommand) (state : State) :
    assemble mark commands (s.reduce ctx).sentence state
      = assemble mark commands (s'.reduce ctx).sentence state := by
  have hreduced : (s.reduce ctx).sentence.map Phrase.decided
      = (s'.reduce ctx).sentence.map Phrase.decided := by
    have hs := Sentence.reduce_map_decided ctx s
    rw [h, Sentence.reduce_map_decided, Progress.mk.injEq] at hs
    exact hs.1.symm
  rw [← assemble_map_decided, hreduced, assemble_map_decided]

end CommandMatch

end ChatCommand

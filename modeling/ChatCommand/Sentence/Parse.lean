/-
Reading a sentence.

* `Sentence.stageStep`: one stage, in which phrases are tokenized and then merged;
* `Sentence.readStages`: all stages;
* `Sentence.parse`: all stages, then reduction.
-/
import ChatCommand.Sentence.Merging
import ChatCommand.Sentence.Reduction

namespace ChatCommand

namespace Sentence

/-- One stage: tokenizes every phrase, then merges neighbours. -/
def stageStep (ctx : Context) (s : Sentence) (stage : Stage) : Progress :=
  refactor ctx stage (tokenize ctx stage s)

/-- Goes on with another stage unless something has stopped the reading. -/
def continueWith (ctx : Context) (p : Progress) (stage : Stage) : Progress :=
  match p.fault? with
  | some _ => p
  | none => stageStep ctx p.sentence stage

/-- All stages in order. -/
def readStages (ctx : Context) (s : Sentence) : Progress :=
  Stage.all.foldl (continueWith ctx) { sentence := s }

/-- All stages, then reduction. -/
def parse (ctx : Context) (s : Sentence) : Progress :=
  let p := readStages ctx s
  match p.fault? with
  | some _ => p
  | none => reduce ctx p.sentence

end Sentence

end ChatCommand

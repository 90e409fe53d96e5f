/-
Which command is meant.

* `Commands.primary?`: the most similar method token of a sentence, with its phrase;
* `Commands.candidates`: the names of all commands that may be meant;
* `Commands.extract`: the commands, the primary one first, and the sentence without method tokens.
-/
import ChatCommand.Recognition.Config
import ChatCommand.Sentence.Basic

namespace ChatCommand

namespace Commands

def isMethod (t : Token) : Bool := t.variant = .method

/-- The method tokens of a sentence in order, each with the number of its phrase. -/
def methodTokens (s : Sentence) : List (Nat × Token) :=
  s.zipIdx.flatMap fun (p, index) => (p.tokens.filter isMethod).map fun t => (index, t)

/-- Whether a method token is preferred to an earlier one: it is more similar, or as similar and
longer. -/
def isPreferred (t earlier : Token) : Bool :=
  earlier.similarity < t.similarity
    || (earlier.similarity.magnitude == t.similarity.magnitude
      && earlier.text.utf8ByteSize < t.text.utf8ByteSize)

/-- Of a preferred element so far and the next one, the one to go on with. -/
def preferred (best? : Option (Nat × Token)) (next : Nat × Token) : Option (Nat × Token) :=
  match best? with
  | none => some next
  | some best => if isPreferred next.2 best.2 then some next else some best

/-- The most similar method token, of these the longest, of these the first. -/
def primary? (s : Sentence) : Option (Nat × Token) :=
  (methodTokens s).foldl preferred none

/-- The names of the commands that may be meant, in order. Beside the primary command, in its own
phrase, a command must be nearly exact, since the two compete for the same words. -/
def candidates {α : Type} [Bar α] (thresholds : Thresholds α) (primaryPhrase : Nat)
    (s : Sentence) : List String :=
  (methodTokens s).filterMap fun (index, t) =>
    if index = primaryPhrase && Bar.missedBy thresholds.alternateMethod t.similarity then none
    else t.name

/-- The commands of some names but one, each once, those of higher priority first. -/
def alternates (state : State) (primary : String) (names : List String) : List TextCommand :=
  let commands := (names.eraseDups.filter (· != primary)).filterMap state.command?
  commands.mergeSort fun a b => decide (b.priority ≤ a.priority)

/-- The sentence without method tokens. -/
def withoutMethods (s : Sentence) : Sentence :=
  s.map fun p => p.retain fun t => !isMethod t

/-- The commands that a sentence calls, the primary one first, and the sentence without method
tokens. A sentence whose primary token has no name stays as it is. -/
def extract {α : Type} [Bar α] (thresholds : Thresholds α) (state : State) (s : Sentence) :
    List TextCommand × Sentence :=
  match primary? s with
  | none => ([], s)
  | some (index, token) =>
    match token.name with
    | none => ([], s)
    | some name =>
      match state.command? name with
      | none => ([], withoutMethods s)
      | some command =>
        (command :: alternates state name (candidates thresholds index s), withoutMethods s)

/-- The sentence stays as it is, or loses its method tokens. -/
theorem sentence_extract {α : Type} [Bar α] (thresholds : Thresholds α) (state : State)
    (s : Sentence) :
    (extract thresholds state s).2 = s ∨ (extract thresholds state s).2 = withoutMethods s := by
  unfold extract
  split
  · exact .inl rfl
  · split
    · exact .inl rfl
    · split
      · exact .inr rfl
      · exact .inr rfl

end Commands

end ChatCommand

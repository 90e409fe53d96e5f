/-
Phrases: a span of input with every way it has been read.

* `Phrase`: the span and its tokens, ranked;
* `Phrase.extend`: more tokens, of which those that mean the same as one already there replace it
  if they are more similar;
* `Phrase.best?`, `Phrase.bestSimilarity`: the preferred reading;
* `Phrase.retain`: the tokens with some property alone;
* `joinText`: the spans of several phrases with spaces between them;
* `Phrase.mem_of_mem_extend`: a phrase holds the readings it had and those it was given, no others.
-/
import ChatCommand.Token.Basic

namespace ChatCommand

/-- A span of input and its readings, the preferred one first. -/
structure Phrase where
  text : String
  tokens : List Token := []

namespace Phrase

/-- A phrase with one reading. -/
def ofToken (text : String) (t : Token) : Phrase :=
  { text, tokens := [t] }

def best? (p : Phrase) : Option Token := p.tokens.head?

/-- The similarity of the preferred reading, zero if there is none. -/
def bestSimilarity (p : Phrase) : Score :=
  match p.best? with
  | some t => t.similarity
  | none => .zero

/-- Whether nothing has been recognized in the span. -/
def isUnread (p : Phrase) : Bool := p.tokens.isEmpty

/-- Puts a token among others: in the place of the first that means the same if that is less
similar, else at the end if none means the same. -/
def insertDistinct (t : Token) : List Token → List Token
  | [] => [t]
  | u :: rest =>
    if u.isEquivalent t then
      if u.similarity < t.similarity then t :: rest else u :: rest
    else u :: insertDistinct t rest

/-- The phrase with more readings, ranked anew. -/
def extend (p : Phrase) (tokens : List Token) : Phrase :=
  let all := tokens.foldl (fun all t => insertDistinct t all) p.tokens
  { p with tokens := all.mergeSort Token.ranksBefore }

/-- The phrase with one more reading. -/
def push (p : Phrase) (t : Token) : Phrase := p.extend [t]

/-- The phrase with the readings that have some property. -/
def retain (p : Phrase) (keep : Token → Bool) : Phrase :=
  { p with tokens := p.tokens.filter keep }

@[simp]
theorem text_extend (p : Phrase) (tokens : List Token) : (p.extend tokens).text = p.text := rfl

@[simp]
theorem text_push (p : Phrase) (t : Token) : (p.push t).text = p.text := rfl

@[simp]
theorem text_retain (p : Phrase) (keep : Token → Bool) : (p.retain keep).text = p.text := rfl

theorem mem_tokens_retain {p : Phrase} {keep : Token → Bool} {t : Token} :
    t ∈ (p.retain keep).tokens ↔ t ∈ p.tokens ∧ keep t = true := by
  simp [retain]

/-- Insertion brings in no other token. -/
theorem mem_of_mem_insertDistinct {t u : Token} {tokens : List Token}
    (h : u ∈ insertDistinct t tokens) : u = t ∨ u ∈ tokens := by
  induction tokens with
  | nil => simpa [insertDistinct] using h
  | cons v rest ih =>
    rw [insertDistinct] at h
    split at h
    · split at h
      · rcases List.mem_cons.mp h with h | h
        · exact .inl h
        · exact .inr (List.mem_cons_of_mem _ h)
      · exact .inr h
    · rcases List.mem_cons.mp h with h | h
      · exact .inr (h ▸ List.mem_cons_self)
      · exact (ih h).imp_right (List.mem_cons_of_mem _)

theorem mem_of_mem_foldl_insertDistinct {u : Token} {new tokens : List Token}
    (h : u ∈ new.foldl (fun all t => insertDistinct t all) tokens) : u ∈ tokens ∨ u ∈ new := by
  induction new generalizing tokens with
  | nil => exact .inl h
  | cons t rest ih =>
    rcases ih h with h | h
    · rcases mem_of_mem_insertDistinct h with rfl | h
      · exact .inr List.mem_cons_self
      · exact .inl h
    · exact .inr (List.mem_cons_of_mem _ h)

/-- A phrase holds no readings but those it had and those it was given. -/
theorem mem_of_mem_extend {p : Phrase} {new : List Token} {u : Token}
    (h : u ∈ (p.extend new).tokens) : u ∈ p.tokens ∨ u ∈ new :=
  mem_of_mem_foldl_insertDistinct (List.mem_mergeSort.mp h)

end Phrase

/-- Appends a span behind a space, or begins with it. -/
def appendSpan (text span : String) : String :=
  if text.isEmpty then span else text ++ " " ++ span

/-- The spans of some phrases with single spaces between them. -/
def joinText (phrases : List Phrase) : String :=
  phrases.foldl (fun text p => appendSpan text p.text) ""

end ChatCommand

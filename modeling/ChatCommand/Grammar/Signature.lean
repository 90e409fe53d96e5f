/-
Signatures: the phrases a rule takes.

* `Signature`: the classes of the arguments and how strictly they are matched;
* `Signature.bind?`: the arguments that a window of phrases gives;
* `Binding`: the arguments, with the text of the window;
* `Binding.produce`: a token for the whole window;
* `Signature.perm_of_takeFirst?`: arguments are handed out, none is lost.
-/
import ChatCommand.Phrase.Basic
import ChatCommand.Token.Class

namespace ChatCommand

/-- The phrases a rule takes. -/
structure Signature where
  /-- The name of the rule. -/
  id : String
  /-- The class of each argument. -/
  parameters : List TokenClass
  /-- Whether a token must be exactly of its class, which is then that of one variant. -/
  exactTypes : Bool := false
  /-- Whether the phrases may give the arguments in any order. -/
  anyOrder : Bool := false
  /-- Whether any two arguments must be compatible. -/
  compatible : Bool := false

/-- The arguments of a rule, in the order of its parameters, and the text they were read in. -/
structure Binding where
  text : String
  tokens : List Token

namespace Binding

/-- The mean similarity of the arguments. -/
def similarity (b : Binding) : Score :=
  Score.mean (b.tokens.map Token.similarity)

/-- A token for the whole window. -/
def produce (b : Binding) (variant : TokenVariant) (value : Option Value) : Token :=
  { text := b.text, variant, value, similarity := b.similarity }

end Binding

namespace Signature

/-- The number of phrases a rule takes. -/
def arity (s : Signature) : Nat := s.parameters.length

/-- Whether a parameter takes a token. -/
def accepts (s : Signature) (parameter : TokenClass) (t : Token) : Bool :=
  if s.exactTypes then parameter.isExactly t.variant else parameter.contains t.variant

/-- Whether any two tokens are compatible. -/
def pairwiseCompatible : List Token → Bool
  | [] => true
  | t :: rest => rest.all (fun u => t.variant.isCompatible u.variant) && pairwiseCompatible rest

/-- Takes out the first token with some property. -/
def takeFirst? (p : Token → Bool) : List Token → Option (Token × List Token)
  | [] => none
  | t :: rest =>
    if p t then some (t, rest)
    else (takeFirst? p rest).map fun (u, others) => (u, t :: others)

/-- Gives each parameter in turn the first token left that it takes. -/
def assign? (s : Signature) : List TokenClass → List Token → Option (List Token)
  | [], _ => some []
  | parameter :: parameters, tokens => do
    let (t, left) ← takeFirst? (s.accepts parameter) tokens
    let others ← s.assign? parameters left
    some (t :: others)

/-- Whether each parameter takes the token in its place. -/
def acceptsInOrder (s : Signature) (tokens : List Token) : Bool :=
  (s.parameters.zip tokens).all fun (parameter, t) => s.accepts parameter t

/-- The arguments that a window gives: the preferred reading of each phrase, if each has one, there
are as many as parameters, and they satisfy the signature. -/
def bind? (s : Signature) (window : List Phrase) : Option Binding := do
  if window.length ≠ s.arity then none
  let best ← window.mapM Phrase.best?
  if s.compatible && !pairwiseCompatible best then none
  let tokens ←
    if s.anyOrder then s.assign? s.parameters best
    else if s.acceptsInOrder best then some best else none
  some { text := joinText window, tokens }

/-- Taking out a token leaves the others. -/
theorem perm_of_takeFirst? {p : Token → Bool} {tokens rest : List Token} {t : Token}
    (h : takeFirst? p tokens = some (t, rest)) : tokens.Perm (t :: rest) := by
  induction tokens generalizing rest with
  | nil => simp [takeFirst?] at h
  | cons u others ih =>
    rw [takeFirst?] at h
    split at h
    · simp only [Option.some.injEq, Prod.mk.injEq] at h
      rw [← h.1, ← h.2]
    · obtain ⟨⟨v, left⟩, hv, he⟩ := Option.map_eq_some_iff.mp h
      simp only [Prod.mk.injEq] at he
      obtain ⟨rfl, rfl⟩ := he
      exact ((ih hv).cons u).trans (List.Perm.swap v u left)

theorem accepts_of_takeFirst? {p : Token → Bool} {tokens rest : List Token} {t : Token}
    (h : takeFirst? p tokens = some (t, rest)) : p t = true := by
  induction tokens generalizing rest with
  | nil => simp [takeFirst?] at h
  | cons u others ih =>
    rw [takeFirst?] at h
    split at h
    · next hp =>
      simp only [Option.some.injEq, Prod.mk.injEq] at h
      rw [← h.1]
      exact hp
    · obtain ⟨⟨v, left⟩, hv, he⟩ := Option.map_eq_some_iff.mp h
      simp only [Prod.mk.injEq] at he
      obtain ⟨rfl, rfl⟩ := he
      exact ih hv

end Signature

end ChatCommand

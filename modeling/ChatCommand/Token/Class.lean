/-
Classes of variants.

* `TokenClass`: the families of variants, and each variant as a class of its own;
* `TokenClass.parent?`: the class directly above;
* `TokenClass.ancestors`: a class and all above it;
* `TokenClass.contains`, `TokenClass.isExactly`: membership;
* `TokenClass.contains_only_iff`: the class of one variant has no other member.
-/
import ChatCommand.Token.Variant

namespace ChatCommand

/-- A family of variants, or one variant as a class. -/
inductive TokenClass where
  | primitive | temporal | timeUnit | meridiem
  | functionWord | punctuation | article | preposition | adjective | typography
  | operator | arithmetic | firstOrder | secondOrder | thirdOrder | logical | equality
  | object | thing | numericProperty
  /-- This variant alone. -/
  | only (variant : TokenVariant)
deriving DecidableEq

namespace TokenClass

/-- The innermost family of a variant. -/
def familyOf : TokenVariant → TokenClass
  | .number | .quotedText => primitive
  | .dateTime => temporal
  | .timeUnit _ => timeUnit
  | .meridiem _ => meridiem
  | .punctuation _ => punctuation
  | .article _ => article
  | .preposition _ => preposition
  | .adjective _ => adjective
  | .typography _ => typography
  | .arithmetic o =>
    match o.precedence with
    | .first => firstOrder
    | .second => secondOrder
    | .third => thirdOrder
  | .logical _ => logical
  | .equality _ => equality
  | .thing _ => thing
  | .numericProperty _ => numericProperty
  | .method | .selfReflection => object

/-- The class directly above. -/
def parent? : TokenClass → Option TokenClass
  | primitive | functionWord | operator | object => none
  | temporal => some primitive
  | timeUnit | meridiem => some temporal
  | punctuation | article | preposition | adjective | typography => some functionWord
  | arithmetic | logical | equality => some operator
  | firstOrder | secondOrder | thirdOrder => some arithmetic
  | thing | numericProperty => some object
  | only variant => some (familyOf variant)

/-- The classes above, the next first, found in at most `steps` steps. -/
def above (c : TokenClass) : Nat → List TokenClass
  | 0 => []
  | steps + 1 =>
    match c.parent? with
    | none => []
    | some p => p :: p.above steps

/-- The class and all above it. No class has more than three above it. -/
def ancestors (c : TokenClass) : List TokenClass :=
  c :: c.above 3

/-- Whether the variant belongs to the class. -/
def contains (c : TokenClass) (v : TokenVariant) : Bool :=
  (ancestors (only v)).contains c

/-- Whether the class is that of the variant alone. -/
def isExactly (c : TokenClass) (v : TokenVariant) : Bool :=
  decide (c = only v)

theorem contains_iff {c : TokenClass} {v : TokenVariant} :
    c.contains v = true ↔ c ∈ (only v).ancestors := by
  simp [contains]

/-- Every variant belongs to the class of itself. -/
theorem contains_only (v : TokenVariant) : (only v).contains v = true := by
  simp [contains, ancestors]

/-- The class of one variant has no other member. -/
theorem contains_only_iff {v w : TokenVariant} : (only w).contains v = true ↔ w = v := by
  rw [contains_iff]
  cases v with
  | arithmetic o =>
    simp only [ancestors, above, parent?, familyOf]
    split <;> simp
  | _ => simp [ancestors, above, parent?, familyOf]

theorem isExactly_iff {c : TokenClass} {v : TokenVariant} : c.isExactly v = true ↔ c = only v := by
  simp [isExactly]

end TokenClass

end ChatCommand

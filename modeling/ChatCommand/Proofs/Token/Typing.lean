/-
Values that fit their variants.

Variant and value of a token are set apart from each other. Every variant promises a value of one
sort or none.

* `Value.kind?`: the kind of the things of a value;
* `TokenVariant.isPromising`: variants of which every token has a value;
* `Token.WellTyped`: the value is what the variant promises;
* `Token.WellTyped.isSome_value`, `Token.WellTyped.variant_eq_thing`: what is promised is there, and
  things are there only where they are promised.
-/
import Mathlib.Tactic.Common
import ChatCommand.Token.Basic

namespace ChatCommand

/-- The kind of the things that the value lists. -/
def Value.kind? : Value → Option ThingKind
  | players _ => some .player
  | maps _ => some .map
  | items _ => some .item
  | locations _ => some .location
  | number _ | text _ | time _ | condition _ | command _ => none

/-- Every token of the variant has a value. Operators and words without a meaning of their own have
none, and a property has none until it is compared. -/
def TokenVariant.isPromising : TokenVariant → Bool
  | .number | .quotedText | .dateTime | .thing _ | .method => true
  | .numericProperty _ | .timeUnit _ | .meridiem _ | .punctuation _ | .article _ | .preposition _
  | .adjective _ | .typography _ | .arithmetic _ | .logical _ | .equality _ | .selfReflection =>
    false

namespace Token

/-- The value is what the variant promises: a number, a text, a time, things of the kind, the
command of the name of the token, or none. A property may be compared with a number already. -/
def WellTyped (t : Token) : Prop :=
  match t.variant with
  | .number => ∃ x, t.value = some (.number x)
  | .quotedText => ∃ s, t.value = some (.text s)
  | .dateTime => ∃ p, t.value = some (.time p)
  | .thing kind => ∃ v, t.value = some v ∧ v.kind? = some kind
  | .method => ∃ name, t.name = some name ∧ t.value = some (.command name)
  | .numericProperty property =>
    ∀ v, t.value = some v → ∃ c, v = .condition c ∧ c.property = property
  | .timeUnit _ | .meridiem _ | .punctuation _ | .article _ | .preposition _ | .adjective _
  | .typography _ | .arithmetic _ | .logical _ | .equality _ | .selfReflection => t.value = none

variable {t u : Token} {v : Value}

lemma WellTyped.isSome_value (ht : t.WellTyped) (h : t.variant.isPromising = true) :
    t.value.isSome = true := by
  cases hvariant : t.variant <;> simp only [WellTyped, hvariant] at ht <;>
    simp only [hvariant, TokenVariant.isPromising, Bool.false_eq_true] at h
  case method =>
      obtain ⟨name, -, hname⟩ := ht
      simp [hname]
  case thing =>
      obtain ⟨v, hv, -⟩ := ht
      simp [hv]
  all_goals
    obtain ⟨x, hx⟩ := ht
    simp [hx]

/-- Where none is promised, no value is needed. -/
lemma wellTyped_of_value_eq_none (h : t.variant.isPromising = false) (hv : t.value = none) :
    t.WellTyped := by
  cases hvariant : t.variant <;> simp only [WellTyped, hvariant] <;>
    simp [hvariant, hv, TokenVariant.isPromising] at h ⊢

/-- Only things have values that list things. -/
lemma WellTyped.variant_eq_thing {kind : ThingKind} (ht : t.WellTyped) (hv : t.value = some v)
    (hkind : v.kind? = some kind) : t.variant = .thing kind := by
  cases hvariant : t.variant <;> simp only [WellTyped, hvariant] at ht
  case thing k =>
      obtain ⟨w, hw, hwk⟩ := ht
      obtain rfl := Option.some.inj (hw.symm.trans hv)
      rw [Option.some.inj (hwk.symm.trans hkind)]
  case number | quotedText | dateTime =>
      obtain ⟨x, hx⟩ := ht
      obtain rfl := Option.some.inj (hx.symm.trans hv)
      contradiction
  case method =>
      obtain ⟨name, -, hname⟩ := ht
      obtain rfl := Option.some.inj (hname.symm.trans hv)
      contradiction
  case numericProperty property =>
      obtain ⟨c, rfl, -⟩ := ht v hv
      contradiction
  all_goals
    rw [ht] at hv
    contradiction

/-- A token with the variant, the name and the value of another. -/
lemma WellTyped.congr (ht : t.WellTyped) (hvariant : u.variant = t.variant)
    (hname : u.name = t.name) (hvalue : u.value = t.value) : u.WellTyped := by
  unfold WellTyped at ht ⊢
  rw [hvariant, hname, hvalue]
  exact ht

end Token

end ChatCommand

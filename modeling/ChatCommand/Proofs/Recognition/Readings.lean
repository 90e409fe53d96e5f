/-
What words and names are read as.

* `Value.Among`: things that are all among others of their kind;
* `Token.IsRead`: numbers, quotes, times, things of the state, and tokens without a value;
* `Family.isRead_of_reading`: each word of the vocabulary is read as one of these;
* `Names.isRead_of_mem_things`: so are the names of players, maps, countries and items;
* `Parser.isRead_of_mem_tokensFor`: **a span is read as one of these, or as a command of the
  state**.
-/
import Mathlib.Data.List.Basic
import ChatCommand.Proofs.Token.Typing
import ChatCommand.Recognition.Parser

namespace ChatCommand

/-- The things of the value are among those of another of its kind. -/
def Value.Among : Value → Value → Prop
  | players a, players b => a ⊆ b
  | maps a, maps b => a ⊆ b
  | items a, items b => a ⊆ b
  | locations a, locations b => a ⊆ b
  | _, _ => False

/-- A word or a name without a command in it: a number, a quote, a time, things that are there, or
what has no value. -/
inductive Token.IsRead (state : State) (t : Token) : Prop
  | number {x : Float} (hvariant : t.variant = .number) (hvalue : t.value = some (.number x))
  | quotedText {s : String} (hvariant : t.variant = .quotedText)
      (hvalue : t.value = some (.text s))
  | time {p : TimePattern} (hvariant : t.variant = .dateTime) (hvalue : t.value = some (.time p))
  | things {kind : ThingKind} {v : Value} (hvariant : t.variant = .thing kind)
      (hvalue : t.value = some v) (hv : v.Among (Reading.everything state kind))
  | bare (hvariant : t.variant.isPromising = false) (hvalue : t.value = none)

variable {state : State}

/-- Things are among things of their kind. -/
lemma Value.Among.kind?_eq {v : Value} {kind : ThingKind}
    (h : v.Among (Reading.everything state kind)) : v.kind? = some kind := by
  cases kind <;> cases v <;> first | rfl | exact False.elim h

/-- No word but that of a command is read as one. -/
lemma Token.IsRead.variant_ne_method {t : Token} (h : t.IsRead state) : t.variant ≠ .method := by
  cases h with
  | bare hvariant _ =>
      intro hmethod
      rw [hmethod] at hvariant
      contradiction
  | number hvariant _ | quotedText hvariant _ | time hvariant _ | things hvariant _ _ =>
      simp [hvariant]

/-! ### Words -/

/-- All things of a kind are among all things of the kind. -/
lemma Reading.among_everything (state : State) (kind : ThingKind) :
    (everything state kind).Among (everything state kind) := by
  cases kind <;> exact List.Subset.refl _

/-- A constant that promises no value has none. -/
lemma Reading.isRead_of_constant {α : Type} [Named α] {variant : α → TokenVariant}
    (hvariant : ∀ a, (variant a).isPromising = false) {hit : Hit} {t : Token}
    (h : constant variant hit state = some t) : t.IsRead state := by
  simp only [constant, Option.bind_eq_bind, Option.bind_eq_some_iff, Option.some.injEq] at h
  obtain ⟨-, -, a, -, rfl⟩ := h
  exact .bare (hvariant a) rfl

lemma Family.isRead_of_reading {family : Family} {hit : Hit} {t : Token}
    (h : family.reading hit state = some t) : t.IsRead state := by
  cases family
  case numeric =>
    obtain ⟨x, -, rfl⟩ := Option.map_eq_some_iff.mp h
    exact .number rfl rfl
  case quotedText =>
    obtain ⟨text, -, rfl⟩ := Option.map_eq_some_iff.mp h
    exact .quotedText rfl rfl
  case dateTime =>
    obtain ⟨p, -, rfl⟩ := Option.map_eq_some_iff.mp h
    exact .time rfl rfl
  case thing =>
    simp only [reading, Reading.group, Option.bind_eq_bind, Option.bind_eq_some_iff,
      Option.some.injEq] at h
    obtain ⟨-, -, kind, -, rfl⟩ := h
    exact .things rfl rfl (Reading.among_everything state kind)
  case selfReflection =>
    obtain rfl := Option.some.inj h
    exact .bare rfl rfl
  all_goals exact Reading.isRead_of_constant (fun _ => rfl) h

/-! ### Names -/

namespace Names

variable {α : Type} [Bar α] {thresholds : Thresholds α} {text : String}

/-- The token of a command that a span calls. -/
def methodToken (text : String) (c : TextCommand) : Token :=
  { text, name := some c.canonicalName, variant := .method
    value := some (.command c.canonicalName), similarity := methodSimilarity text c }

/-- The commands that a span calls are those whose words are similar enough. -/
lemma methods_eq_map :
    methods thresholds state text
      = (state.commands.filter fun c =>
          Bar.reachedBy thresholds.method (methodSimilarity text c)).map (methodToken text) := by
  rw [methods]
  induction state.commands with
  | nil => rfl
  | cons c commands ih =>
      rw [List.filterMap_cons, List.filter_cons, method?]
      split <;> simp_all [methodToken]

/-- Players, maps, countries and items are read as things of the state. -/
lemma isRead_of_mem_things {t : Token}
    (h : t ∈ players thresholds state text ++ maps thresholds state text
      ++ countries thresholds state text ++ (items thresholds state text).toList) :
    t.IsRead state := by
  simp only [List.mem_append, players, maps, countries, List.mem_filterMap, Option.mem_toList] at h
  rcases h with ((⟨p, hp, h⟩ | ⟨m, hm, h⟩) | ⟨c, hc, h⟩) | h
  · simp only [player?, Option.ite_none_right_eq_some, Option.some.injEq] at h
    obtain ⟨-, rfl⟩ := h
    exact .things rfl rfl (List.cons_subset.mpr ⟨hp, List.nil_subset _⟩)
  · simp only [map?, Option.ite_none_right_eq_some, Option.some.injEq] at h
    obtain ⟨-, rfl⟩ := h
    exact .things rfl rfl (List.cons_subset.mpr ⟨hm, List.nil_subset _⟩)
  · simp only [location?, Option.ite_none_right_eq_some, Option.some.injEq] at h
    obtain ⟨-, rfl⟩ := h
    exact .things rfl rfl (List.cons_subset.mpr ⟨hc, List.nil_subset _⟩)
  · simp only [items, Option.ite_none_left_eq_some, Option.some.injEq] at h
    obtain ⟨-, rfl⟩ := h
    exact .things rfl rfl (List.filter_subset_self _)

end Names

/-- **A span is read as numbers, quotes, times, things of the state, words without a value, or as a
command of the state.** -/
theorem Parser.isRead_of_mem_tokensFor {catalog : Catalog} {config : Config} {stage : Stage}
    {text : String} {t : Token}
    (h : t ∈ (context ⟨catalog, .standard, config⟩ state).tokensFor stage text) :
    t.IsRead state ∨ ∃ c ∈ state.commands, t = Names.methodToken text c := by
  rcases List.mem_append.mp h with h | h
  · obtain ⟨family, -, h⟩ := List.mem_flatMap.mp h
    obtain ⟨hit, -, h⟩ := List.mem_filterMap.mp h
    exact .inl (Family.isRead_of_reading h)
  · obtain ⟨recognize, hrecognize, h⟩ := List.mem_flatMap.mp h
    obtain rfl := List.mem_singleton.mp hrecognize
    unfold Names.recognizer at h
    split at h
    · rcases List.mem_append.mp h with h | h
      · exact .inl (Names.isRead_of_mem_things h)
      · rw [Names.methods_eq_map] at h
        obtain ⟨c, hc, rfl⟩ := List.mem_map.mp h
        exact .inr ⟨c, List.mem_of_mem_filter hc, rfl⟩
    · contradiction

end ChatCommand

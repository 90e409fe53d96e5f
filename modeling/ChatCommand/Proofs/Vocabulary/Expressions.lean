/-
Which texts an expression of the vocabulary matches.

* `Regex.PrefersWhole`: before every way to match less than a text there is one to match all of it;
* `Regex.isSome_wholeMatch?_iff`: the preferred match covers the texts of the language of which the
  whole is preferred;
* `Catalog.exists_hit_iff`: **an entry with an expression hits the texts of its language of which the
  whole is preferred**;
* `Regex.prefersWhole_of_forall_spans`, `Regex.IsAnchored.prefersWhole`: an expression that leads to
  the end of a text alone prefers the whole;
* `Catalog.exists_hit_builtin_iff`: **the expressions that ship with the program hit all texts
  of their languages**.
-/
import ChatCommand.Proofs.Regex.Fragments
import ChatCommand.Vocabulary.Builtin

namespace ChatCommand

namespace Regex

variable {e : Regex} {text : List Char}

/-! ### Preferred matches -/

/-- Before every way to match less than the text, in the order of preference, there is one to match
all of it. -/
def PrefersWhole (e : Regex) (text : List Char) : Prop :=
  ∀ path z, e.automaton.Way text ⟨0, 0⟩ path z → z.position ≠ text.length →
    ∃ path' z', e.automaton.Way text ⟨0, 0⟩ path' z' ∧ z'.position = text.length
      ∧ e.automaton.Before text path' path

lemma isSome_wholeMatch?_iff_position :
    (e.wholeMatch? text).isSome ↔
      ∃ z, (e.automaton.run text).map Thread.spot = some z ∧ z.position = text.length := by
  rw [wholeMatch?, preferred?]
  cases e.automaton.run text with
  | none => simp
  | some t => simp [Option.filter_some, Thread.spot]

/-- **The preferred match covers a text exactly if this is of the language and the whole of it is
preferred.** -/
theorem isSome_wholeMatch?_iff (he : e.IsProper) :
    (e.wholeMatch? text).isSome ↔ text ∈ e.language ∧ e.PrefersWhole text := by
  simp only [isSome_wholeMatch?_iff_position, Automaton.run_eq_some_iff]
  constructor
  · rintro ⟨z, ⟨path, way, hfirst⟩, hz⟩
    refine ⟨(spans_iff_exists_way he).mpr ⟨path, z, way, hz⟩, fun path' z' way' hshort => ?_⟩
    refine ⟨path, z, way, hz, (hfirst path' z' way').resolve_left fun hsame => ?_⟩
    exact hshort (way'.end_unique (hsame ▸ way) ▸ hz)
  · rintro ⟨hlanguage, hprefers⟩
    obtain ⟨_, _, way, -⟩ := (spans_iff_exists_way he).mp hlanguage
    obtain ⟨first, z, way, hfirst⟩ := Automaton.exists_first way
    refine ⟨z, ⟨first, way, hfirst⟩, ?_⟩
    -- a way that is before the first way is that way
    by_contra hshort
    obtain ⟨path, z', way', hz', hbefore⟩ := hprefers first z way hshort
    rcases hfirst path z' way' with rfl | hbefore'
    · exact hbefore.asymm hbefore
    · exact hbefore.asymm hbefore'

/-! ### Anchored expressions -/

/-- The expression ends at the end of the text. -/
def IsAnchored : Regex → Prop
  | seq _ b => b.IsAnchored
  | choice a b => a.IsAnchored ∧ b.IsAnchored
  | group _ a => a.IsAnchored
  | textEnd => True
  | _ => False

lemma IsAnchored.drop_eq_nil (h : e.IsAnchored) {i k : Nat} (hspans : e.Spans text i k) :
    text.drop k = [] := by
  induction e generalizing i with
  | seq a b _ ihb =>
      obtain ⟨j, -, hb⟩ := hspans
      exact ihb h hb
  | choice a b iha ihb => exact hspans.elim (iha h.1) (ihb h.2)
  | group _ a ih => exact ih h hspans
  | textEnd =>
      obtain ⟨hend, rfl⟩ := hspans
      exact hend
  | text | char | rounds | textStart => contradiction

/-- No expression leads out of the text. -/
lemma le_length_of_spans (he : e.IsProper) {k : Nat} (h : e.Spans text 0 k) : k ≤ text.length := by
  obtain ⟨path, z, way, rfl⟩ := (spans_iff_exists_way he).mp h
  exact way.position_le (Nat.zero_le _) z (List.mem_of_getLast? way.getLast?_eq)

/-- An expression that leads nowhere but to the end of the text prefers the whole of it. -/
lemma prefersWhole_of_forall_spans (he : e.IsProper)
    (h : ∀ k, e.Spans text 0 k → k = text.length) : e.PrefersWhole text :=
  fun path z way hshort =>
    absurd (h z.position ((spans_iff_exists_way he).mpr ⟨path, z, way, rfl⟩)) hshort

lemma IsAnchored.prefersWhole (h : e.IsAnchored) (he : e.IsProper) : e.PrefersWhole text := by
  refine prefersWhole_of_forall_spans he fun k hspans => ?_
  exact Nat.le_antisymm (le_length_of_spans he hspans)
    (List.drop_eq_nil_iff.mp (h.drop_eq_nil hspans))

end Regex

/-! ### Hits -/

namespace Entry

variable {entry : Entry} {e : Regex} {minimum : Nat} {text : String} {small : List Char}

/-- A hit tells its entry. -/
lemma entry_of_hit? {hit : Hit} (h : entry.hit? minimum text small = some hit) :
    hit.entry = entry := by
  unfold hit? at h
  split at h
  · dsimp only at h
    split at h
    · split at h
      · rw [← Option.some.inj h]
      · contradiction
    · contradiction
  · obtain ⟨_, -, rfl⟩ := Option.map_eq_some_iff.mp h
    rfl
  · contradiction

lemma isSome_hit?_iff (hliteral : entry.literal = none) (hexpression : entry.expression = some e) :
    (entry.hit? minimum text small).isSome ↔ (e.wholeMatch? text.toList).isSome := by
  rw [hit?, hliteral, hexpression]
  simp

/-- The expression of an entry that has been read is proper. -/
lemma isProper_of_ofDatum? {d : Datum} (h : ofDatum? d = some entry)
    (hexpression : entry.expression = some e) : e.IsProper := by
  simp only [ofDatum?, Option.bind_eq_bind, Option.bind_eq_some_iff] at h
  obtain ⟨fields, -, text, -, regex, -, name, -, value, -, h⟩ := h
  cases regex with
  | none =>
      simp only [Option.bind_some] at h
      split at h
      · contradiction
      · obtain rfl := Option.some.inj h
        contradiction
  | some source =>
      simp only [Option.bind_eq_some_iff] at h
      obtain ⟨expression, hread, h⟩ := h
      obtain ⟨e', he', rfl⟩ := Option.map_eq_some_iff.mp hread
      split at h
      · contradiction
      · obtain rfl := Option.some.inj h
        exact Option.some.inj hexpression ▸ Regex.isProper_of_read? he'

end Entry

namespace Catalog

variable {c : Catalog} {f : Family} {entry : Entry} {e : Regex}

lemma isProper_of_mem_entries {document : Datum} (hc : ofDatum document = .ok c)
    (hentry : entry ∈ c.entries f) (hexpression : entry.expression = some e) : e.IsProper := by
  cases document with
  | table parts =>
      obtain rfl : _ = c := Except.ok.inj hc
      unfold entriesIn at hentry
      dsimp only at hentry
      split at hentry
      · obtain ⟨d, -, hd⟩ := List.mem_filterMap.mp hentry
        exact Entry.isProper_of_ofDatum? hd hexpression
      · contradiction
  | _ => contradiction

lemma exists_hit_iff_isSome (hentry : entry ∈ c.entries f) (text : String) :
    (∃ hit ∈ c.hits f text, hit.entry = entry) ↔
      (entry.hit? f.minimum text (Text.lowercaseChars text.toList)).isSome := by
  rw [Option.isSome_iff_exists]
  constructor
  · rintro ⟨hit, hmem, rfl⟩
    obtain ⟨entry', -, hhit⟩ := List.mem_filterMap.mp hmem
    exact ⟨hit, Entry.entry_of_hit? hhit ▸ hhit⟩
  · rintro ⟨hit, hhit⟩
    exact ⟨hit, List.mem_filterMap.mpr ⟨entry, hentry, hhit⟩, Entry.entry_of_hit? hhit⟩

/-- The parts of a document with one expression for numbers. -/
def numerals (source : String) : List (Datum × Datum) :=
  [(.text Family.numeric.key, .list [.table [(.text "regex", .text source)]])]

end Catalog

/-! ### Expressions that ship -/

namespace Vocabulary

open Regex

variable {entry : Entry}

lemma expression_of_mem_named {words : List (String × String)} (h : entry ∈ named words) :
    entry.expression = none := by
  obtain ⟨_, -, rfl⟩ := List.mem_map.mp h
  rfl

lemma expression_of_mem_valued {words : List (String × Datum)} (h : entry ∈ valued words) :
    entry.expression = none := by
  obtain ⟨_, -, rfl⟩ := List.mem_map.mp h
  rfl

/-- The entries with expressions that ship are numbers in digits, quotations and times of a
clock. -/
lemma mem_of_mem_builtin {f : Family} {e : Regex} (h : entry ∈ Catalog.builtin.entries f)
    (hexpression : entry.expression = some e) :
    entry = digitsExpression ∨ entry = quotedExpression ∨ entry = clockExpression := by
  have hnamed (words : List (String × String)) : entry ∉ named words := fun h => by
    rw [expression_of_mem_named h] at hexpression
    contradiction
  have hvalued (words : List (String × Datum)) : entry ∉ valued words := fun h => by
    rw [expression_of_mem_valued h] at hexpression
    contradiction
  cases f with
  | numeric => exact .inl ((List.mem_cons.mp h).resolve_right (hvalued _))
  | quotedText => exact .inr (.inl (List.mem_singleton.mp h))
  | dateTime => exact .inr (.inr ((List.mem_cons.mp h).resolve_right (hvalued _)))
  | _ => exact absurd h (hnamed _)

lemma isProper_expression {before value behind : Regex} (hbefore : before.IsProper)
    (hvalue : value.IsProper) (hbehind : behind.IsProper) :
    (Regex.sequence
      [.textStart, before, .group (some "value") value, behind, .textEnd]).IsProper := by
  refine .sequence ?_
  simp [IsProper, hbefore, hvalue, hbehind]

lemma isProper_of_mem_builtin {f : Family} {e : Regex} (h : entry ∈ Catalog.builtin.entries f)
    (hexpression : entry.expression = some e) : e.IsProper ∧ e.IsAnchored := by
  have hdigit : Regex.digit.IsProper := trivial
  rcases mem_of_mem_builtin h hexpression with rfl | rfl | rfl
  · obtain rfl := Option.some.inj hexpression
    have hpoint : (Regex.sequence [.literal '.', .many .digit]).IsProper :=
      .sequence (by simpa using ⟨trivial, hdigit.many⟩)
    refine ⟨isProper_expression trivial (.sequence ?_) trivial, trivial⟩
    simpa using ⟨.optional trivial, hdigit.many, hpoint.optional⟩
  · obtain rfl := Option.some.inj hexpression
    exact ⟨isProper_expression trivial (.repeated trivial (by simp)) trivial, trivial⟩
  · obtain rfl := Option.some.inj hexpression
    have hseconds : (Regex.sequence [.literal ':', .times 2 .digit]).IsProper :=
      .sequence (by simpa using ⟨trivial, hdigit.times 2⟩)
    have hhours : (Regex.repeated 1 (some 2) true .digit).IsProper := hdigit.repeated (by simp)
    refine ⟨isProper_expression trivial (.sequence ?_) trivial, trivial⟩
    simpa using ⟨hhours, trivial, hdigit.times 2, hseconds.optional⟩

end Vocabulary

/-- **The expressions that ship hit all texts of their languages.** -/
theorem Catalog.exists_hit_builtin_iff {f : Family} {entry : Entry} {e : Regex}
    (hentry : entry ∈ builtin.entries f) (hexpression : entry.expression = some e)
    (text : String) :
    (∃ hit ∈ builtin.hits f text, hit.entry = entry) ↔ text.toList ∈ e.language := by
  have hliteral : entry.literal = none := by
    rcases Vocabulary.mem_of_mem_builtin hentry hexpression with rfl | rfl | rfl <;> rfl
  obtain ⟨hproper, hanchored⟩ := Vocabulary.isProper_of_mem_builtin hentry hexpression
  rw [exists_hit_iff_isSome hentry, Entry.isSome_hit?_iff hliteral hexpression,
    Regex.isSome_wholeMatch?_iff hproper, and_iff_left (hanchored.prefersWhole hproper)]

end ChatCommand

/-
Values of JSON.

* `Datum.IsJson`: the values of JSON, where the keys of an object are texts and differ;
* `Datum.IsLoose`: the same with repeated keys, and with parts that have no value;
* `Datum.IsLoose.isJson_settled`: of such data with a value everywhere, a value of JSON is left when
  each key keeps its last value alone;
* `Json.isLoose_of_readValue?`: what is read is such data;
* `Json.isJson_settled_of_read?`: **a readable JSON text has a value of JSON**.
-/
import Mathlib.Data.List.Nodup
import ChatCommand.Data.Json

namespace ChatCommand

namespace Datum

/-- A value of JSON: nothing, a truth value, a number, a text, a list or an object, whose keys are
texts and differ. -/
inductive IsJson : Datum → Prop
  | null : IsJson null
  | truth (b : Bool) : IsJson (truth b)
  | integer (n : Int) : IsJson (integer n)
  | real (x : Float) : IsJson (real x)
  | text (s : String) : IsJson (text s)
  | list {items : List Datum} (items_json : ∀ d ∈ items, IsJson d) : IsJson (list items)
  | table {parts : List (Datum × Datum)} (keys : ∀ p ∈ parts, ∃ s, p.1 = text s)
      (distinct : (parts.map Prod.fst).Nodup) (values_json : ∀ p ∈ parts, IsJson p.2) :
      IsJson (table parts)

/-- Data in which keys may be repeated, and texts and numbers may be without a value. -/
inductive IsLoose : Datum → Prop
  | null : IsLoose null
  | truth (b : Bool) : IsLoose (truth b)
  | integer (n : Int) : IsLoose (integer n)
  | real (x : Float) : IsLoose (real x)
  | text (s : String) : IsLoose (text s)
  | unreadable : IsLoose unreadable
  | list {items : List Datum} (items_loose : ∀ d ∈ items, IsLoose d) : IsLoose (list items)
  | table {parts : List (Datum × Datum)}
      (keys : ∀ p ∈ parts, p.1 = unreadable ∨ ∃ s, p.1 = text s)
      (values_loose : ∀ p ∈ parts, IsLoose p.2) : IsLoose (table parts)

/-! ### Repeated keys -/

lemma areReadable_iff {items : List Datum} :
    areReadable items = true ↔ ∀ d ∈ items, d.isReadable = true := by
  induction items with
  | nil => simp [areReadable]
  | cons d items ih => rw [areReadable, Bool.and_eq_true, ih, List.forall_mem_cons]

lemma entriesAreReadable_iff {parts : List (Datum × Datum)} :
    entriesAreReadable parts = true ↔
      ∀ p ∈ parts, p.1.isReadable = true ∧ p.2.isReadable = true := by
  induction parts with
  | nil => simp [entriesAreReadable]
  | cons p parts ih =>
      rw [entriesAreReadable, Bool.and_eq_true, Bool.and_eq_true, ih, List.forall_mem_cons]

lemma settledItems_eq_map (items : List Datum) : settledItems items = items.map settled := by
  induction items with
  | nil => rw [settledItems, List.map_nil]
  | cons d items ih => rw [settledItems, ih, List.map_cons]

/-- What is left of an object was in it, each value without the repeated keys in it. -/
lemma exists_of_mem_settledEntries {parts : List (Datum × Datum)} {p : Datum × Datum}
    (h : p ∈ settledEntries parts) : ∃ v, (p.1, v) ∈ parts ∧ p.2 = v.settled := by
  induction parts with
  | nil => simp [settledEntries] at h
  | cons q parts ih =>
      rw [settledEntries] at h
      split at h
      · obtain ⟨v, hv, hsettled⟩ := ih h
        exact ⟨v, List.mem_cons_of_mem _ hv, hsettled⟩
      · rcases List.mem_cons.mp h with rfl | h
        · exact ⟨q.2, List.mem_cons_self, rfl⟩
        · obtain ⟨v, hv, hsettled⟩ := ih h
          exact ⟨v, List.mem_cons_of_mem _ hv, hsettled⟩

lemma hasKey_of_mem {s : String} {v : Datum} {parts : List (Datum × Datum)}
    (h : (text s, v) ∈ parts) : (text s).hasKey parts = true :=
  List.any_eq_true.mpr ⟨_, h, beq_self_eq_true s⟩

/-- The keys that are left differ. -/
lemma nodup_keys_settledEntries {parts : List (Datum × Datum)}
    (h : ∀ p ∈ parts, ∃ s, p.1 = text s) : ((settledEntries parts).map Prod.fst).Nodup := by
  induction parts with
  | nil => simp [settledEntries]
  | cons p parts ih =>
      obtain ⟨⟨s, hs⟩, hrest⟩ := List.forall_mem_cons.mp h
      rw [settledEntries]
      split
      · exact ih hrest
      · next hnew =>
          rw [List.map_cons, List.nodup_cons]
          refine ⟨fun hmem => hnew ?_, ih hrest⟩
          obtain ⟨q, hq, hkey⟩ := List.mem_map.mp hmem
          obtain ⟨v, hv, -⟩ := exists_of_mem_settledEntries hq
          rw [hkey, hs] at hv
          rw [hs]
          exact hasKey_of_mem hv

/-- **When each key keeps its last value alone, data with a value everywhere is a value of JSON.** -/
theorem IsLoose.isJson_settled {d : Datum} (h : d.IsLoose) (hreadable : d.isReadable = true) :
    d.settled.IsJson := by
  induction h with
  | null => exact .null
  | truth b => exact .truth b
  | integer n => exact .integer n
  | real x => exact .real x
  | text s => exact .text s
  | unreadable => contradiction
  | @list items _ ih =>
      rw [isReadable, areReadable_iff] at hreadable
      rw [settled, settledItems_eq_map]
      refine .list (List.forall_mem_map.mpr fun d hd => ih d hd (hreadable d hd))
  | @table parts hkeys _ ih =>
      rw [isReadable, entriesAreReadable_iff] at hreadable
      have htexts : ∀ p ∈ parts, ∃ s, p.1 = .text s := fun p hp =>
        (hkeys p hp).resolve_left fun hkey => by
          have hp' := (hreadable p hp).1
          rw [hkey] at hp'
          contradiction
      rw [settled]
      refine .table (fun p hp => ?_) (nodup_keys_settledEntries htexts) fun p hp => ?_
      · obtain ⟨v, hv, -⟩ := exists_of_mem_settledEntries hp
        exact htexts (p.1, v) hv
      · obtain ⟨v, hv, hsettled⟩ := exists_of_mem_settledEntries hp
        rw [hsettled]
        exact ih _ hv (hreadable _ hv).2

end Datum

namespace Json

/-! ### Reading -/

lemma isLoose_datum (n : Numeral) : n.datum.IsLoose := by
  have hreal : n.real.IsLoose := by
    unfold Numeral.real
    dsimp only
    split
    · exact .unreadable
    · exact .real _
  unfold Numeral.datum
  dsimp only
  split
  · exact hreal
  · split
    · exact hreal
    · split
      · exact .integer _
      · split
        · exact .real _
        · split
          · exact .integer _
          · exact .real _

/-- A string is a text, or has no value. -/
lemma stringDatum_eq (pieces : List Piece) :
    stringDatum pieces = .unreadable ∨ ∃ s, stringDatum pieces = .text s := by
  unfold stringDatum
  split
  · exact .inl rfl
  · exact .inr ⟨_, rfl⟩

lemma isLoose_stringDatum (pieces : List Piece) : (stringDatum pieces).IsLoose := by
  rcases stringDatum_eq pieces with h | ⟨s, h⟩
  · exact h ▸ .unreadable
  · exact h ▸ .text s

section Levels

variable {fuel : Nat} {s rest : List Char}
  (ihvalue : ∀ s d rest, readValue? fuel s = some (d, rest) → d.IsLoose)
  (ihitems : ∀ s items rest, readItems? fuel s = some (items, rest) → ∀ d ∈ items, d.IsLoose)
  (ihentries : ∀ s parts rest, readEntries? fuel s = some (parts, rest) →
    ∀ p ∈ parts, (p.1 = .unreadable ∨ ∃ s, p.1 = .text s) ∧ p.2.IsLoose)

include ihitems ihentries in
/-- What is read of a value, if it is of its items and entries. -/
lemma isLoose_of_readValue?_succ {d : Datum} (h : readValue? (fuel + 1) s = some (d, rest)) :
    d.IsLoose := by
  rw [readValue?] at h
  split at h
  · obtain ⟨rfl, -⟩ := Prod.mk.inj (Option.some.inj h)
    exact .null
  · obtain ⟨rfl, -⟩ := Prod.mk.inj (Option.some.inj h)
    exact .truth true
  · obtain ⟨rfl, -⟩ := Prod.mk.inj (Option.some.inj h)
    exact .truth false
  · obtain ⟨_, -, heq⟩ := Option.map_eq_some_iff.mp h
    obtain ⟨rfl, -⟩ := Prod.mk.inj heq
    exact isLoose_stringDatum _
  · split at h
    · obtain ⟨rfl, -⟩ := Prod.mk.inj (Option.some.inj h)
      exact .list (by simp)
    · obtain ⟨⟨items, _⟩, hitems, heq⟩ := Option.map_eq_some_iff.mp h
      obtain ⟨rfl, -⟩ := Prod.mk.inj heq
      exact .list (ihitems _ _ _ hitems)
  · split at h
    · split at h
      · split at h
        · obtain ⟨rfl, -⟩ := Prod.mk.inj (Option.some.inj h)
          exact .table (by simp) (by simp)
        · obtain ⟨⟨parts, _⟩, hparts, heq⟩ := Option.map_eq_some_iff.mp h
          obtain ⟨rfl, -⟩ := Prod.mk.inj heq
          exact .table (fun p hp => (ihentries _ _ _ hparts p hp).1)
            fun p hp => (ihentries _ _ _ hparts p hp).2
      · contradiction
    · obtain ⟨_, -, heq⟩ := Option.map_eq_some_iff.mp h
      obtain ⟨rfl, -⟩ := Prod.mk.inj heq
      exact isLoose_datum _
  · contradiction

include ihvalue ihitems in
lemma isLoose_of_readItems?_succ {items : List Datum}
    (h : readItems? (fuel + 1) s = some (items, rest)) : ∀ d ∈ items, d.IsLoose := by
  rw [readItems?] at h
  split at h
  · contradiction
  · next hvalue =>
      split at h
      · obtain ⟨rfl, -⟩ := Prod.mk.inj (Option.some.inj h)
        exact List.forall_mem_singleton.mpr (ihvalue _ _ _ hvalue)
      · obtain ⟨⟨others, _⟩, hothers, heq⟩ := Option.map_eq_some_iff.mp h
        obtain ⟨rfl, -⟩ := Prod.mk.inj heq
        exact List.forall_mem_cons.mpr ⟨ihvalue _ _ _ hvalue, ihitems _ _ _ hothers⟩
      · contradiction

include ihvalue ihentries in
lemma isLoose_of_readEntries?_succ {parts : List (Datum × Datum)}
    (h : readEntries? (fuel + 1) s = some (parts, rest)) :
    ∀ p ∈ parts, (p.1 = .unreadable ∨ ∃ s, p.1 = .text s) ∧ p.2.IsLoose := by
  rw [readEntries?] at h
  split at h
  · split at h
    · contradiction
    · next key _ _ =>
        split at h
        · split at h
          · contradiction
          · next hvalue =>
              have hfirst := And.intro (stringDatum_eq key) (ihvalue _ _ _ hvalue)
              split at h
              · obtain ⟨⟨others, _⟩, hothers, heq⟩ := Option.map_eq_some_iff.mp h
                obtain ⟨rfl, -⟩ := Prod.mk.inj heq
                exact List.forall_mem_cons.mpr ⟨hfirst, ihentries _ _ _ hothers⟩
              · split at h
                · obtain ⟨rfl, -⟩ := Prod.mk.inj (Option.some.inj h)
                  exact List.forall_mem_singleton.mpr hfirst
                · contradiction
              · contradiction
        · contradiction
  · contradiction

end Levels

/-- What is read of values, items and entries are data in which keys may be repeated. -/
lemma isLoose_of_read (fuel : Nat) :
    (∀ s d rest, readValue? fuel s = some (d, rest) → d.IsLoose)
    ∧ (∀ s items rest, readItems? fuel s = some (items, rest) → ∀ d ∈ items, d.IsLoose)
    ∧ ∀ s parts rest, readEntries? fuel s = some (parts, rest) →
      ∀ p ∈ parts, (p.1 = .unreadable ∨ ∃ s, p.1 = .text s) ∧ p.2.IsLoose := by
  induction fuel with
  | zero => simp [readValue?, readItems?, readEntries?]
  | succ fuel ih =>
      obtain ⟨ihvalue, ihitems, ihentries⟩ := ih
      exact ⟨fun _ _ _ h => isLoose_of_readValue?_succ ihitems ihentries h,
        fun _ _ _ h => isLoose_of_readItems?_succ ihvalue ihitems h,
        fun _ _ _ h => isLoose_of_readEntries?_succ ihvalue ihentries h⟩

/-- **A JSON text with a value everywhere has a value of JSON**, when each key keeps its last value
alone. -/
theorem isJson_settled_of_read? {text : String} {d : Datum} (h : read? text = some d)
    (hreadable : d.isReadable = true) : d.settled.IsJson := by
  rw [read?] at h
  split at h
  · contradiction
  · next hvalue =>
      split at h
      · obtain rfl := Option.some.inj h
        exact ((isLoose_of_read _).1 _ _ _ hvalue).isJson_settled hreadable
      · contradiction

end Json

end ChatCommand

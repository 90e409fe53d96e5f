/-
Documents with parts that cannot be used.

* `Catalog.Picks`: the entries that the usable items of a list mean, in order;
* `Catalog.Offers`: the entries that a document offers for a family;
* `Catalog.Drops`: a document without one of the parts that cannot be used: a key that is no family,
  a family that is no list, or an entry;
* `Catalog.entriesIn_eq_of_drops`: such a part gives no entry to any family;
* `Catalog.exists_isJson_of_ofJson`: a text that is a catalog is an object of JSON;
* `Catalog.exists_ofDatum`: **every JSON object is a catalog, in which a family has the entries that
  are offered for it, and unusable parts may come and go**.
-/
import Mathlib.Logic.Relation
import ChatCommand.Proofs.Vocabulary.Entries

namespace ChatCommand

namespace Catalog

/-! ### Usable entries -/

/-- The entries that the usable items of a list mean, in order. -/
inductive Picks : List Datum → List Entry → Prop
  | nil : Picks [] []
  | usable {d : Datum} {e : Entry} {ds : List Datum} {es : List Entry} (h : Entry.Means d e)
      (rest : Picks ds es) : Picks (d :: ds) (e :: es)
  | unusable {d : Datum} {ds : List Datum} {es : List Entry} (h : Entry.IsUnusable d)
      (rest : Picks ds es) : Picks (d :: ds) es

/-- The entries that a document offers for a family: those of the list under its key, or none. -/
inductive Offers (parts : List (Datum × Datum)) (f : Family) : List Entry → Prop
  | list {items : List Datum} {es : List Entry} (h : (.text f.key, .list items) ∈ parts)
      (picks : Picks items es) : Offers parts f es
  | missing (h : ∀ items, (.text f.key, .list items) ∉ parts) : Offers parts f []

lemma picks_iff {items : List Datum} {es : List Entry} (hitems : ∀ d ∈ items, d.IsJson) :
    Picks items es ↔ usable items = es := by
  induction items generalizing es with
  | nil => exact ⟨fun h => by cases h; rfl, fun h => h ▸ .nil⟩
  | cons d items ih =>
      obtain ⟨hd, hrest⟩ := List.forall_mem_cons.mp hitems
      rw [usable, List.filterMap_cons]
      constructor
      · intro h
        cases h with
        | usable hmeans hpicks =>
            rw [(Entry.ofDatum?_eq_some_iff hd).mpr hmeans]
            exact congrArg _ ((ih hrest).mp hpicks)
        | unusable hunusable hpicks =>
            rw [(Entry.ofDatum?_eq_none_iff hd).mpr hunusable]
            exact (ih hrest).mp hpicks
      · rintro rfl
        cases he : Entry.ofDatum? d with
        | none => exact .unusable ((Entry.ofDatum?_eq_none_iff hd).mp he) ((ih hrest).mpr rfl)
        | some e => exact .usable ((Entry.ofDatum?_eq_some_iff hd).mp he) ((ih hrest).mpr rfl)

/-! ### Families -/

section Parts

variable {parts : List (Datum × Datum)}

lemma plainText?_eq_some_iff {d : Datum} {s : String} : d.plainText? = some s ↔ d = .text s := by
  cases d <;> simp [Datum.plainText?]

/-- Of the parts of an object one stands under a key. -/
lemma eq_of_key_eq (h : (Datum.table parts).IsJson) {p q : Datum × Datum} (hp : p ∈ parts)
    (hq : q ∈ parts) (hkey : p.1 = q.1) : p = q := by
  cases h with
  | table _ hdistinct => exact List.inj_on_of_nodup_map hdistinct hp hq hkey

lemma entriesIn_of_mem (h : (Datum.table parts).IsJson) {f : Family} {items : List Datum}
    (hmem : (.text f.key, .list items) ∈ parts) : entriesIn parts f = usable items := by
  have hsome : (parts.find? fun p => p.1.plainText? = some f.key).isSome :=
    List.find?_isSome.mpr ⟨_, hmem, by simp [Datum.plainText?]⟩
  obtain ⟨p, hfind⟩ := Option.isSome_iff_exists.mp hsome
  have hkey : p.1 = .text f.key := by
    have htest := List.find?_some hfind
    exact plainText?_eq_some_iff.mp (of_decide_eq_true htest)
  obtain rfl := eq_of_key_eq h (List.mem_of_find?_eq_some hfind) hmem hkey
  rw [entriesIn]
  simp only [hfind]

lemma entriesIn_of_missing {f : Family} (h : ∀ items, (.text f.key, .list items) ∉ parts) :
    entriesIn parts f = [] := by
  rw [entriesIn]
  split
  · next key items hfind =>
      have hkey : key = .text f.key := by
        have htest := List.find?_some hfind
        exact plainText?_eq_some_iff.mp (of_decide_eq_true htest)
      exact absurd (hkey ▸ List.mem_of_find?_eq_some hfind) (h items)
  · rfl

lemma items_json (h : (Datum.table parts).IsJson) {key : Datum} {items : List Datum}
    (hmem : (key, .list items) ∈ parts) : ∀ d ∈ items, d.IsJson := by
  cases h with
  | table _ _ hvalues =>
      cases hvalues _ hmem with
      | list hitems => exact hitems

/-- A family has the entries that the document offers for it. -/
lemma offers_iff (h : (Datum.table parts).IsJson) {f : Family} {es : List Entry} :
    Offers parts f es ↔ entriesIn parts f = es := by
  constructor
  · intro hoffers
    cases hoffers with
    | list hmem hpicks =>
        rw [entriesIn_of_mem h hmem]
        exact (picks_iff (items_json h hmem)).mp hpicks
    | missing hmissing => exact entriesIn_of_missing hmissing
  · rintro rfl
    by_cases hlist : ∃ items, (.text f.key, .list items) ∈ parts
    · obtain ⟨items, hmem⟩ := hlist
      exact .list hmem ((picks_iff (items_json h hmem)).mpr (entriesIn_of_mem h hmem).symm)
    · rw [not_exists] at hlist
      rw [entriesIn_of_missing hlist]
      exact .missing hlist

end Parts

/-! ### Unusable parts -/

/-- An object, and the object without one of the parts that cannot be used. -/
inductive Drops : Datum → Datum → Prop
  /-- No family has the key, or what stands under it is no list. -/
  | part {before after : List (Datum × Datum)} {key value : Datum}
      (json : (Datum.table (before ++ (key, value) :: after)).IsJson)
      (h : (∀ f : Family, key ≠ .text f.key) ∨ ∀ items, value ≠ .list items) :
      Drops (.table (before ++ (key, value) :: after)) (.table (before ++ after))
  /-- An item of a list cannot be used. -/
  | item {before after : List (Datum × Datum)} {key d : Datum} {front back : List Datum}
      (json : (Datum.table (before ++ (key, .list (front ++ d :: back)) :: after)).IsJson)
      (h : Entry.IsUnusable d) :
      Drops (.table (before ++ (key, .list (front ++ d :: back)) :: after))
        (.table (before ++ (key, .list (front ++ back)) :: after))

section Families

variable {before after : List (Datum × Datum)} {key value : Datum}

/-- Without one of its parts an object is an object. -/
lemma isJson_without (h : (Datum.table (before ++ (key, value) :: after)).IsJson) :
    (Datum.table (before ++ after)).IsJson := by
  have hsub : (before ++ after).Sublist (before ++ (key, value) :: after) :=
    (List.sublist_cons_self _ _).append_left _
  cases h with
  | table hkeys hdistinct hvalues =>
      exact .table (fun p hp => hkeys p (hsub.subset hp)) (hdistinct.sublist (hsub.map Prod.fst))
        fun p hp => hvalues p (hsub.subset hp)

/-- With another value of one of its parts an object is an object. -/
lemma isJson_with {value' : Datum} (h : (Datum.table (before ++ (key, value) :: after)).IsJson)
    (hvalue : value'.IsJson) : (Datum.table (before ++ (key, value') :: after)).IsJson := by
  cases h with
  | table hkeys hdistinct hvalues =>
      rw [List.forall_mem_append, List.forall_mem_cons] at hkeys hvalues
      refine .table ?_ ?_ ?_
      · rw [List.forall_mem_append, List.forall_mem_cons]
        exact hkeys
      · rwa [List.map_append, List.map_cons] at hdistinct ⊢
      · rw [List.forall_mem_append, List.forall_mem_cons]
        exact ⟨hvalues.1, hvalue, hvalues.2.2⟩

/-- A part that is no list under the key of a family gives no entries. -/
lemma entriesIn_without (hjson : (Datum.table (before ++ (key, value) :: after)).IsJson)
    {f : Family} (h : key ≠ .text f.key ∨ ∀ items, value ≠ .list items) :
    entriesIn (before ++ (key, value) :: after) f = entriesIn (before ++ after) f := by
  by_cases hlist : ∃ items, (.text f.key, .list items) ∈ before ++ after
  · obtain ⟨items, hmem⟩ := hlist
    have hmem' : (.text f.key, .list items) ∈ before ++ (key, value) :: after :=
      ((List.sublist_cons_self _ _).append_left _).subset hmem
    rw [entriesIn_of_mem hjson hmem', entriesIn_of_mem (isJson_without hjson) hmem]
  · rw [not_exists] at hlist
    rw [entriesIn_of_missing hlist, entriesIn_of_missing]
    intro items hmem
    rcases List.mem_append.mp hmem with hmem | hmem
    · exact hlist items (List.mem_append_left _ hmem)
    · rcases List.mem_cons.mp hmem with heq | hmem
      · obtain ⟨rfl, rfl⟩ := Prod.mk.inj heq
        exact h.elim (absurd rfl) fun h => h items rfl
      · exact hlist items (List.mem_append_right _ hmem)

/-- Items that cannot be used give no entries. -/
lemma usable_append_cons {front back : List Datum} {d : Datum} (hd : d.IsJson)
    (h : Entry.IsUnusable d) : usable (front ++ d :: back) = usable (front ++ back) := by
  have hnone := (Entry.ofDatum?_eq_none_iff hd).mpr h
  rw [usable, usable, List.filterMap_append, List.filterMap_append, List.filterMap_cons, hnone]

lemma entriesIn_with {items items' : List Datum}
    (hjson : (Datum.table (before ++ (key, .list items) :: after)).IsJson)
    (hjson' : (Datum.table (before ++ (key, .list items') :: after)).IsJson)
    (h : usable items = usable items') (f : Family) :
    entriesIn (before ++ (key, .list items) :: after) f
      = entriesIn (before ++ (key, .list items') :: after) f := by
  by_cases hkey : key = .text f.key
  · subst hkey
    rw [entriesIn_of_mem hjson (List.mem_append_right _ List.mem_cons_self),
      entriesIn_of_mem hjson' (List.mem_append_right _ List.mem_cons_self), h]
  · rw [entriesIn_without hjson (.inl hkey), entriesIn_without hjson' (.inl hkey)]

end Families

/-- What is left is an object of JSON, and no family has other entries in it. -/
lemma Drops.exists_parts {d d' : Datum} (h : Drops d d') :
    ∃ parts parts', d = .table parts ∧ d' = .table parts' ∧ (Datum.table parts).IsJson
      ∧ (Datum.table parts').IsJson ∧ entriesIn parts = entriesIn parts' := by
  cases h with
  | part json h =>
      exact ⟨_, _, rfl, rfl, json, isJson_without json,
        funext fun f => entriesIn_without json (h.imp_left fun h => h f)⟩
  | @item before after key d front back json h =>
      have hitems : ∀ x ∈ front ++ d :: back, x.IsJson :=
        items_json json (List.mem_append_right _ List.mem_cons_self)
      rw [List.forall_mem_append, List.forall_mem_cons] at hitems
      have json' := isJson_with json (.list (List.forall_mem_append.mpr ⟨hitems.1, hitems.2.2⟩))
      exact ⟨_, _, rfl, rfl, json, json',
        funext (entriesIn_with json json' (usable_append_cons hitems.2.1 h))⟩

/-- A document and what it becomes when unusable parts come and go offer the same. -/
lemma exists_parts_of_eqvGen {d d' : Datum} (h : Relation.EqvGen Drops d d') :
    d = d' ∨ ∃ parts parts', d = .table parts ∧ d' = .table parts'
      ∧ entriesIn parts = entriesIn parts' := by
  induction h with
  | rel _ _ h =>
      obtain ⟨parts, parts', hd, hd', -, -, heq⟩ := h.exists_parts
      exact .inr ⟨parts, parts', hd, hd', heq⟩
  | refl => exact .inl rfl
  | symm _ _ _ ih =>
      rcases ih with heq | ⟨parts, parts', hd, hd', heq⟩
      · exact .inl heq.symm
      · exact .inr ⟨parts', parts, hd', hd, heq.symm⟩
  | trans _ _ _ _ _ ih ih' =>
      rcases ih with rfl | ⟨parts, middle, hd, hmiddle, heq⟩
      · exact ih'
      · rcases ih' with rfl | ⟨middle', parts', hmiddle', hd', heq'⟩
        · exact .inr ⟨parts, middle, hd, hmiddle, heq⟩
        · obtain rfl := Datum.table.inj (hmiddle.symm.trans hmiddle')
          exact .inr ⟨parts, parts', hd, hd', heq.trans heq'⟩

/-- A text that is a catalog is an object of JSON. -/
theorem exists_isJson_of_ofJson {text : String} {c : Catalog} (h : ofJson text = .ok c) :
    ∃ parts, (Datum.table parts).IsJson ∧ ofDatum (.table parts) = .ok c := by
  unfold ofJson at h
  split at h
  · next d hread =>
      split at h
      · next hreadable =>
          have hjson := Json.isJson_settled_of_read? hread (Bool.and_eq_true_iff.mp hreadable).1
          generalize d.settled = value at h hjson
          cases value with
          | table parts => exact ⟨parts, hjson, h⟩
          | _ => contradiction
      · contradiction
  · contradiction

end Catalog

end ChatCommand

/-
What an entry of a document tells.

* `Datum.Gives`: an entry gives a value to a field, under its name or at its place;
* `Entry.Wording`, `Datum.Tells`: the fields of an entry as a document gives them;
* `Entry.IsUnusable`, `Entry.Means`: an entry cannot be used, or means an entry of the vocabulary;
* `Entry.ofDatum?_eq_some_iff`, `Entry.ofDatum?_eq_none_iff`: **what is read of an entry is what it
  means, and nothing is read exactly if it cannot be used**.
-/
import ChatCommand.Proofs.Data.Values
import ChatCommand.Vocabulary.Catalog

namespace ChatCommand

/-! ### What is given -/

namespace Datum

/-- A value is given to a field of an entry: in an object under its name, in a list at its place. -/
inductive Gives : Datum → String → Datum → Prop
  | key {parts : List (Datum × Datum)} {name : String} {v : Datum} (h : (text name, v) ∈ parts) :
      Gives (table parts) name v
  | place {items : List Datum} {name : String} {v : Datum} {k : Nat}
      (hname : Entry.fieldNames[k]? = some name) (h : items[k]? = some v) :
      Gives (list items) name v

/-- A field tells a text, or nothing: then it is null if it is given. -/
def TellsText (d : Datum) (name : String) : Option String → Prop
  | some s => d.Gives name (text s)
  | none => ∀ v, d.Gives name v → v = null

/-- A field tells any value but null, or nothing. -/
def TellsValue (d : Datum) (name : String) : Option Datum → Prop
  | some v => d.Gives name v ∧ v ≠ null
  | none => ∀ v, d.Gives name v → v = null

end Datum

namespace Entry

/-- The fields of an entry as a document gives them. -/
structure Wording where
  text : Option String
  regex : Option String
  name : Option String
  value : Option Datum

end Entry

/-- The shape of an entry: an object, or a list with no more items than there are fields. -/
def Datum.IsRecord (d : Datum) : Prop :=
  (∃ parts, d = .table parts) ∨ ∃ items, d = .list items ∧ items.length ≤ Entry.fieldNames.length

/-- The fields of an entry of the right shape tell the wording. -/
structure Datum.Tells (d : Datum) (w : Entry.Wording) : Prop where
  shape : d.IsRecord
  text : d.TellsText "text" w.text
  regex : d.TellsText "regex" w.regex
  name : d.TellsText "name" w.name
  value : d.TellsValue "value" w.value

namespace Entry

/-- An entry cannot be used. -/
inductive IsUnusable (d : Datum) : Prop
  /-- It has the wrong shape. -/
  | misshapen (h : ∀ w, ¬d.Tells w)
  /-- It has neither a text nor an expression. -/
  | wordless {w : Wording} (tells : d.Tells w) (htext : w.text = none) (hregex : w.regex = none)
  /-- Its expression is not well-formed. -/
  | malformed {w : Wording} {source : String} (tells : d.Tells w) (hregex : w.regex = some source)
      (hread : Regex.read? source = none)

/-- An entry of a document means an entry of the vocabulary. -/
inductive Means (d : Datum) : Entry → Prop
  /-- It has a text alone. -/
  | word {w : Wording} {text : String} (tells : d.Tells w) (htext : w.text = some text)
      (hregex : w.regex = none) :
      Means d
        { literal := some (Text.lowercase text), expression := none, name := w.name
          value := w.value }
  /-- It has an expression, and perhaps a text. -/
  | expression {w : Wording} {source : String} {e : Regex} (tells : d.Tells w)
      (hregex : w.regex = some source) (hread : Regex.read? source = some e) :
      Means d
        { literal := w.text.map Text.lowercase, expression := some e, name := w.name
          value := w.value }

end Entry

/-! ### Fields -/

namespace Datum

variable {d : Datum}

/-- Among keys that are different texts, a field is looked up by its name. -/
lemma exists_tableFields? (names : List String) {parts : List (Datum × Datum)}
    (hkeys : ∀ p ∈ parts, ∃ s, p.1 = text s) (hdistinct : (parts.map Prod.fst).Nodup) :
    ∃ fields, tableFields? names parts = some fields ∧ ∀ name v,
      fields.lookup name = some v ↔ name ∈ names ∧ (text name, v) ∈ parts := by
  induction parts with
  | nil => exact ⟨[], rfl, by simp⟩
  | cons p parts ih =>
      obtain ⟨key, value⟩ := p
      obtain ⟨⟨s, hkey⟩, hrest⟩ := List.forall_mem_cons.mp hkeys
      obtain rfl : key = text s := hkey
      obtain ⟨hnew, hdiffer⟩ := List.nodup_cons.mp hdistinct
      obtain ⟨fields, hfields, hlookup⟩ := ih hrest hdiffer
      have hfresh (v : Datum) : (text s, v) ∉ parts := fun hmem =>
        hnew (List.mem_map.mpr ⟨_, hmem, rfl⟩)
      by_cases hs : s ∈ names
      · have hnone : fields.lookup s = none := by
          rw [Option.eq_none_iff_forall_ne_some]
          exact fun v hv => hfresh v ((hlookup s v).mp hv).2
        refine ⟨(s, value) :: fields, ?_, fun name v => ?_⟩
        · simp [tableFields?, hfields, fieldName?, hs, hnone]
        · rw [List.lookup_cons, List.mem_cons]
          by_cases hname : name = s
          · subst hname
            simp [hs, hfresh, eq_comm]
          · have hne : (name == s) = false := by simpa using hname
            simp [hne, hname, hlookup]
      · refine ⟨fields, ?_, fun name v => ?_⟩
        · simp [tableFields?, hfields, fieldName?, hs]
        · rw [hlookup, List.mem_cons]
          refine and_congr_right fun hname => ?_
          have hne : name ≠ s := fun h => hs (h ▸ hname)
          simp [hne]

/-- Among names that differ, a field is looked up at its place. -/
lemma lookup_zip_eq_some_iff {names : List String} (hnames : names.Nodup) (items : List Datum)
    (name : String) (v : Datum) :
    (names.zip items).lookup name = some v ↔
      ∃ k : Nat, names[k]? = some name ∧ items[k]? = some v := by
  induction names generalizing items with
  | nil => simp
  | cons first names ih =>
      obtain ⟨hfirst, hnames⟩ := List.nodup_cons.mp hnames
      cases items with
      | nil => simp
      | cons item items =>
          rw [List.zip_cons_cons, List.lookup_cons, ← Nat.or_exists_add_one]
          by_cases hname : name = first
          · subst hname
            have hother : ¬∃ k : Nat, names[k]? = some name ∧ items[k]? = some v :=
              fun ⟨_, hk, _⟩ => hfirst (List.mem_of_getElem? hk)
            simp [hother]
          · have hne : (name == first) = false := by simpa using hname
            simp [hne, Ne.symm hname, ih hnames]

/-- The fields of an entry of the right shape are those that it gives. -/
lemma exists_fields? (hd : d.IsJson) (hshape : d.IsRecord) :
    ∃ fields, d.fields? Entry.fieldNames = some fields ∧ ∀ name ∈ Entry.fieldNames, ∀ v,
      fields.lookup name = some v ↔ d.Gives name v := by
  rcases hshape with ⟨parts, rfl⟩ | ⟨items, rfl, hlength⟩
  · obtain ⟨hkeys, hdistinct⟩ : (∀ p ∈ parts, ∃ s, p.1 = text s)
        ∧ (parts.map Prod.fst).Nodup := by
      cases hd with
      | table hkeys hdistinct => exact ⟨hkeys, hdistinct⟩
    obtain ⟨fields, hfields, hlookup⟩ := exists_tableFields? Entry.fieldNames hkeys hdistinct
    refine ⟨fields, hfields, fun name hname v => (hlookup name v).trans ?_⟩
    exact ⟨fun h => .key h.2, fun h => by cases h with | key h => exact ⟨hname, h⟩⟩
  · refine ⟨Entry.fieldNames.zip items, if_pos hlength, fun name _ v => ?_⟩
    rw [lookup_zip_eq_some_iff (by decide)]
    exact ⟨fun ⟨_, hplace, h⟩ => .place hplace h,
      fun h => by cases h with | place hplace h => exact ⟨_, hplace, h⟩⟩

lemma IsJson.of_gives {name : String} {v : Datum} (hd : d.IsJson) (h : d.Gives name v) :
    v.IsJson := by
  cases h with
  | key hmem =>
      cases hd with
      | table _ _ hvalues => exact hvalues _ hmem
  | place _ hitem =>
      cases hd with
      | list hitems => exact hitems v (List.mem_of_getElem? hitem)

section Reading

variable {fields : Fields} {name : String}
  (hlookup : ∀ v, fields.lookup name = some v ↔ d.Gives name v)

include hlookup

/-- What is read of a field that may be null is a text or nothing. -/
lemma optional?_text?_eq_some_iff (hd : d.IsJson) {t : Option String} :
    fields.optional? name none (orNull? text?) = some t ↔ d.TellsText name t := by
  cases hfield : fields.lookup name with
  | none => cases t <;> simp [Fields.optional?, TellsText, ← hlookup, hfield]
  | some v =>
      have hv := hd.of_gives ((hlookup v).mp hfield)
      cases hv <;> cases t <;>
        simp [Fields.optional?, TellsText, ← hlookup, hfield, orNull?, text?]

/-- What is read of a field of any kind is its value unless this is null. -/
lemma optional?_some_eq_some_iff {t : Option Datum} :
    fields.optional? name none (orNull? some) = some t ↔ d.TellsValue name t := by
  cases hfield : fields.lookup name with
  | none => cases t <;> simp [Fields.optional?, TellsValue, ← hlookup, hfield]
  | some v =>
      cases v <;> cases t <;> simp [Fields.optional?, TellsValue, ← hlookup, hfield, orNull?]
      all_goals
        rintro rfl
        simp

end Reading

end Datum

/-! ### Entries -/

namespace Entry

variable {d : Datum}

/-- What is read of an entry whose fields tell a wording. -/
lemma ofDatum?_of_tells (hd : d.IsJson) {w : Wording} (h : d.Tells w) :
    ofDatum? d =
      (match w.regex with
        | none => some none
        | some source => (Regex.read? source).map some).bind fun expression =>
      if w.text.isNone && expression.isNone then none
      else
        some
          { literal := w.text.map Text.lowercase, expression, name := w.name
            value := w.value } := by
  obtain ⟨fields, hfields, hlookup⟩ := Datum.exists_fields? hd h.shape
  have htext := (Datum.optional?_text?_eq_some_iff (hlookup "text" (by decide)) hd).mpr h.text
  have hregex := (Datum.optional?_text?_eq_some_iff (hlookup "regex" (by decide)) hd).mpr h.regex
  have hname := (Datum.optional?_text?_eq_some_iff (hlookup "name" (by decide)) hd).mpr h.name
  have hvalue := (Datum.optional?_some_eq_some_iff (hlookup "value" (by decide))).mpr h.value
  rw [ofDatum?, hfields]
  simp only [Option.bind_eq_bind, Option.bind_some, htext, hregex, hname, hvalue]
  cases w.regex <;> rfl

/-- Of an entry whose fields tell no wording nothing is read. -/
lemma exists_tells_of_ofDatum? (hd : d.IsJson) {e : Entry} (h : ofDatum? d = some e) :
    ∃ w, d.Tells w := by
  simp only [ofDatum?, Option.bind_eq_bind, Option.bind_eq_some_iff] at h
  obtain ⟨fields, hfields, text, htext, regex, hregex, name, hname, value, hvalue, -⟩ := h
  have hshape : d.IsRecord := by
    cases d with
    | table parts => exact .inl ⟨parts, rfl⟩
    | list items =>
        refine .inr ⟨items, rfl, ?_⟩
        by_contra hlong
        rw [Datum.fields?, if_neg hlong] at hfields
        contradiction
    | _ => contradiction
  obtain ⟨fields', hfields', hlookup⟩ := Datum.exists_fields? hd hshape
  obtain rfl := Option.some.inj (hfields.symm.trans hfields')
  exact ⟨⟨text, regex, name, value⟩,
    { shape := hshape
      text := (Datum.optional?_text?_eq_some_iff (hlookup "text" (by decide)) hd).mp htext
      regex := (Datum.optional?_text?_eq_some_iff (hlookup "regex" (by decide)) hd).mp hregex
      name := (Datum.optional?_text?_eq_some_iff (hlookup "name" (by decide)) hd).mp hname
      value := (Datum.optional?_some_eq_some_iff (hlookup "value" (by decide))).mp hvalue }⟩

/-- **What is read of an entry is what it means.** -/
theorem ofDatum?_eq_some_iff (hd : d.IsJson) {e : Entry} : ofDatum? d = some e ↔ Means d e := by
  constructor
  · intro h
    obtain ⟨w, hw⟩ := exists_tells_of_ofDatum? hd h
    rw [ofDatum?_of_tells hd hw] at h
    obtain ⟨text, regex, name, value⟩ := w
    cases regex with
    | none =>
        cases text with
        | none => simp at h
        | some text =>
            obtain rfl : _ = e := by simpa using h
            exact .word hw rfl rfl
    | some source =>
        cases hread : Regex.read? source with
        | none => simp [hread] at h
        | some expression =>
            obtain rfl : _ = e := by simpa [hread] using h
            exact .expression hw rfl hread
  · intro h
    cases h with
    | word hw htext hregex =>
        rw [ofDatum?_of_tells hd hw, hregex, htext]
        rfl
    | expression hw hregex hread =>
        rw [ofDatum?_of_tells hd hw, hregex]
        simp [hread]

/-- **Nothing is read of an entry exactly if it cannot be used.** -/
theorem ofDatum?_eq_none_iff (hd : d.IsJson) : ofDatum? d = none ↔ IsUnusable d := by
  constructor
  · intro h
    by_cases htells : ∃ w, d.Tells w
    · obtain ⟨w, hw⟩ := htells
      rw [ofDatum?_of_tells hd hw] at h
      cases hregex : w.regex with
      | none =>
          refine .wordless hw ?_ hregex
          simpa [hregex] using h
      | some source =>
          refine .malformed hw hregex ?_
          cases hread : Regex.read? source with
          | none => rfl
          | some expression => simp [hregex, hread] at h
    · exact .misshapen fun w hw => htells ⟨w, hw⟩
  · intro h
    cases h with
    | misshapen h =>
        refine Option.eq_none_iff_forall_ne_some.mpr fun e he => ?_
        obtain ⟨w, hw⟩ := exists_tells_of_ofDatum? hd he
        exact h w hw
    | wordless hw htext hregex => simp [ofDatum?_of_tells hd hw, htext, hregex]
    | malformed hw hregex hread => simp [ofDatum?_of_tells hd hw, hregex, hread]

end Entry

end ChatCommand

/-
Values, lists and records are read as they were written.

* `Datum.uint32?_toNat`, `Datum.int32?_toInt`, `Datum.listOf?_map`, `Datum.orNull?_orNull`: values
  are read of the data they are written as;
* `Datum.fields?_record`: the fields of a record are read as they were written;
* `Datum.isPlain_record`, `Datum.depth_record_le`: records of plain data are plain, and one level
  deeper;
* `Datum.KeepsFitting`: a reader returns nothing that is written with greater lengths than were
  read;
* `Datum.keepsFitting_listOf?`, `Datum.fits_fields`, `Fields.fits_optional?`: readers of lists and
  fields have it of those of their parts.
-/
import Mathlib.Data.List.Basic
import Mathlib.Data.List.Nodup
import Mathlib.Tactic.Common
import ChatCommand.Proofs.Data.MessagePack
import ChatCommand.Roster.Snapshot

namespace ChatCommand

open MessagePack (Fits)

/-! ### Values of one type -/

namespace Datum

lemma uint32?_toNat (n : UInt32) : uint32? (integer n.toNat) = some n := by
  have hlt := n.toNat_lt
  rw [uint32?, integer?, if_pos (by omega), Option.map_some, Int.toNat_natCast, UInt32.ofNat_toNat]

lemma int32?_toInt (n : Int32) : int32? (integer n.toInt) = some n := by
  have hleast := n.le_toInt
  have hgreatest := n.toInt_lt
  rw [int32?, integer?, if_pos (by omega), Option.map_some, Int32.ofInt_toInt]

lemma listOf?_map {α : Type} {read? : Datum → Option α} {write : α → Datum}
    (h : ∀ a, read? (write a) = some a) (all : List α) :
    listOf? read? (list (all.map write)) = some all := by
  induction all with
  | nil => rfl
  | cons a all ih =>
      rw [listOf?] at ih
      rw [listOf?, List.map_cons, List.mapM_cons, h, ih]
      rfl

lemma listOf?_texts (items : List String) : listOf? text? (texts items) = some items := by
  have htext (s : String) : text? (text s) = some s := rfl
  exact listOf?_map htext items

/-- Nothing, or a value. -/
def orNull {α : Type} (write : α → Datum) : Option α → Datum
  | none => null
  | some a => write a

lemma orNull?_orNull {α : Type} {read? : Datum → Option α} {write : α → Datum}
    (h : ∀ a, read? (write a) = some a) (hnull : ∀ a, write a ≠ null) (a? : Option α) :
    orNull? read? (orNull write a?) = some a? := by
  cases a? with
  | none => rfl
  | some a =>
      rw [orNull, orNull?.eq_def]
      split
      · next heq => exact absurd heq (hnull a)
      · rw [h, Option.map_some]

/-! ### Records -/

lemma isSome_lookup_iff {fields : Fields} {name : String} :
    (fields.lookup name).isSome ↔ name ∈ fields.map Prod.fst := by
  induction fields with
  | nil => simp
  | cons field fields ih =>
      obtain ⟨first, value⟩ := field
      rw [List.lookup_cons, List.map_cons, List.mem_cons]
      cases h : name == first with
      | true => simp [beq_iff_eq.mp h]
      | false => simp only [ih, beq_eq_false_iff_ne.mp h, false_or]

lemma tableFields?_record {names : List String} {fields : Fields}
    (hnames : ∀ f ∈ fields, f.1 ∈ names) (hnodup : (fields.map Prod.fst).Nodup) :
    tableFields? names (fields.map fun (name, value) => (.text name, value)) = some fields := by
  induction fields with
  | nil => rfl
  | cons field fields ih =>
      obtain ⟨name, value⟩ := field
      rw [List.map_cons, List.nodup_cons] at hnodup
      obtain ⟨hname, hrest⟩ := List.forall_mem_cons.mp hnames
      have hnew : (fields.lookup name).isSome = false :=
        Bool.eq_false_iff.mpr (mt isSome_lookup_iff.mp hnodup.1)
      simp [tableFields?, ih hrest hnodup.2, fieldName?, hname, hnew]

/-- The fields of a record are read as they were written. -/
lemma fields?_record {names : List String} {fields : Fields} (hnames : fields.map Prod.fst = names)
    (hnodup : names.Nodup) : (record fields).fields? names = some fields :=
  tableFields?_record (fun _ hf => hnames ▸ List.mem_map_of_mem hf) (hnames ▸ hnodup)

end Datum

/-- A field that is given has the value that is read of it. -/
lemma Fields.optional?_of_lookup {α : Type} {fields : Fields} {name : String} {d : Datum}
    {read? : Datum → Option α} {a default : α} (hd : fields.lookup name = some d)
    (ha : read? d = some a) : fields.optional? name default read? = some a := by
  rw [optional?, hd]
  exact ha

/-! ### Plain data -/

namespace Datum

lemma isPlain_record {fields : Fields} (h : ∀ f ∈ fields, IsPlain f.2) :
    IsPlain (record fields) := by
  refine .table (fun e he => ?_) fun e he => ?_
  · obtain ⟨f, -, rfl⟩ := List.mem_map.mp he
    exact ⟨f.1, rfl⟩
  · obtain ⟨f, hf, rfl⟩ := List.mem_map.mp he
    exact h f hf

lemma isPlain_list_map {α : Type} {write : α → Datum} (h : ∀ a, IsPlain (write a)) (all : List α) :
    IsPlain (list (all.map write)) :=
  .list <| List.forall_mem_map.mpr fun a _ => h a

lemma isPlain_texts (items : List String) : IsPlain (texts items) :=
  isPlain_list_map .text items

lemma isPlain_uint32 (n : UInt32) : IsPlain (integer n.toNat) := by
  have hlt := n.toNat_lt
  exact .integer (by omega) (by omega)

lemma isPlain_int32 (n : Int32) : IsPlain (integer n.toInt) := by
  have hleast := n.le_toInt
  have hgreatest := n.toInt_lt
  exact .integer (by omega) (by omega)

end Datum

/-! ### Depth -/

namespace Datum

lemma depth_record_le {fields : Fields} {n : Nat} (h : ∀ f ∈ fields, f.2.depth ≤ n) :
    (record fields).depth ≤ n + 1 :=
  Nat.succ_le_succ <| greatestEntryDepth_le_iff.mpr <| List.forall_mem_map.mpr h

lemma depth_list_map_le {α : Type} {write : α → Datum} {n : Nat} (h : ∀ a, (write a).depth ≤ n)
    (all : List α) : (list (all.map write)).depth ≤ n + 1 :=
  Nat.succ_le_succ <| greatestDepth_le_iff.mpr <| List.forall_mem_map.mpr fun a _ => h a

lemma depth_text (s : String) : (text s).depth = 0 := rfl

lemma depth_integer (n : Int) : (integer n).depth = 0 := rfl

lemma depth_texts_le (items : List String) : (texts items).depth ≤ 1 :=
  depth_list_map_le (fun s => Nat.le_of_eq (depth_text s)) items

end Datum

/-! ### Lengths -/

/-- What is read of data with lengths that MessagePack has forms for is written with such
lengths. -/
def Datum.KeepsFitting {α : Type} (read? : Datum → Option α) (write : α → Datum) : Prop :=
  ∀ d a, Fits d → read? d = some a → Fits (write a)

namespace Datum

lemma fits_integer (n : Int) : Fits (integer n) := trivial

lemma fits_text {s : String} (h : s.utf8ByteSize < 0x100000000) : Fits (text s) := h

lemma keepsFitting_text? : KeepsFitting text? text := by
  intro d s hd hread
  cases d with
  | text t => exact Option.some.inj hread ▸ hd
  | bytes b =>
      rw [← utf8Bytes_of_fromUTF8? hread, Fits, length_utf8Bytes] at hd
      exact hd
  | _ => contradiction

lemma length_of_mapM {α β : Type} {f : α → Option β} {as : List α} {bs : List β}
    (h : as.mapM f = some bs) : bs.length = as.length ∧ ∀ b ∈ bs, ∃ a ∈ as, f a = some b := by
  induction as generalizing bs with
  | nil =>
      obtain rfl : [] = bs := Option.some.inj h
      simp
  | cons a as ih =>
      simp only [List.mapM_cons, Option.bind_eq_bind, Option.bind_eq_some_iff] at h
      obtain ⟨b, hb, bs', hbs, heq⟩ := h
      obtain rfl : b :: bs' = bs := Option.some.inj heq
      obtain ⟨hlength, hall⟩ := ih hbs
      refine ⟨by rw [List.length_cons, List.length_cons, hlength],
        List.forall_mem_cons.mpr ⟨⟨a, List.mem_cons_self, hb⟩, fun b hb => ?_⟩⟩
      obtain ⟨a', ha', hf⟩ := hall b hb
      exact ⟨a', List.mem_cons_of_mem _ ha', hf⟩

lemma keepsFitting_listOf? {α : Type} {read? : Datum → Option α} {write : α → Datum}
    (h : KeepsFitting read? write) :
    KeepsFitting (listOf? read?) fun all => list (all.map write) := by
  intro d all hd hread
  have hmapped (hlength : all.length < 0x100000000)
      (hall : ∀ a ∈ all, ∃ item, Fits item ∧ read? item = some a) :
      Fits (list (all.map write)) := by
    refine ⟨by rwa [List.length_map], MessagePack.allFit_iff.mpr <| List.forall_mem_map.mpr ?_⟩
    intro a ha
    obtain ⟨item, hitem, hreadItem⟩ := hall a ha
    exact h item a hitem hreadItem
  cases d with
  | list items =>
      obtain ⟨hlength, hall⟩ := length_of_mapM hread
      refine hmapped (hlength ▸ hd.1) fun a ha => ?_
      obtain ⟨item, hitem, hreadItem⟩ := hall a ha
      exact ⟨item, MessagePack.allFit_iff.mp hd.2 item hitem, hreadItem⟩
  | bytes b =>
      obtain ⟨hlength, hall⟩ := length_of_mapM hread
      refine hmapped (hlength ▸ hd) fun a ha => ?_
      obtain ⟨byte, -, hreadByte⟩ := hall a ha
      exact ⟨integer byte.toNat, trivial, hreadByte⟩
  | _ => contradiction

lemma keepsFitting_orNull? {α : Type} {read? : Datum → Option α} {write : α → Datum}
    (h : KeepsFitting read? write) : KeepsFitting (orNull? read?) (orNull write) := by
  intro d a hd hread
  rw [orNull?.eq_def] at hread
  split at hread
  · obtain rfl : none = a := Option.some.inj hread
    trivial
  · obtain ⟨b, hb, rfl⟩ := Option.map_eq_some_iff.mp hread
    exact h d b hd hb

/-- Names of fields are short, and there are few of them. -/
lemma fits_record (names : List String) {fields : Fields} (hnames : fields.map Prod.fst = names)
    (hshort : names.length < 0x100000000 ∧ ∀ name ∈ names, name.utf8ByteSize < 0x100000000)
    (h : ∀ f ∈ fields, Fits f.2) : Fits (record fields) := by
  subst hnames
  refine ⟨by simpa using hshort.1, MessagePack.entriesFit_iff.mpr <| List.forall_mem_map.mpr ?_⟩
  exact fun f hf => ⟨fits_text (hshort.2 f.1 (List.mem_map_of_mem hf)), h f hf⟩

/-- The fields that are read of data with lengths that MessagePack has forms for. -/
lemma fits_fields {names : List String} {fields : Fields} {d : Datum} (hd : Fits d)
    (h : d.fields? names = some fields) : ∀ f ∈ fields, Fits f.2 := by
  cases d with
  | list items =>
      rw [fields?, Option.ite_none_right_eq_some] at h
      intro f hf
      rw [← Option.some.inj h.2] at hf
      exact MessagePack.allFit_iff.mp hd.2 f.2 (List.of_mem_zip hf).2
  | table entries =>
      replace hd := MessagePack.entriesFit_iff.mp hd.2
      rw [fields?] at h
      induction entries generalizing fields with
      | nil =>
          obtain rfl : [] = fields := Option.some.inj h
          simp
      | cons entry entries ih =>
          obtain ⟨key, value⟩ := entry
          obtain ⟨hentry, hrest⟩ := List.forall_mem_cons.mp hd
          simp only [tableFields?, Option.bind_eq_bind, Option.bind_eq_some_iff] at h
          obtain ⟨others, hothers, name?, -, h⟩ := h
          have hfits := ih hothers hrest
          split at h
          · exact Option.some.inj h ▸ hfits
          · split at h
            · contradiction
            · rw [← Option.some.inj h]
              exact List.forall_mem_cons.mpr ⟨hentry.2, hfits⟩
  | _ => contradiction

end Datum

namespace Fields

variable {fields : Fields} {name : String}

lemma fits_lookup {d : Datum} (hfields : ∀ f ∈ fields, Fits f.2)
    (h : fields.lookup name = some d) : Fits d := by
  induction fields with
  | nil => contradiction
  | cons field fields ih =>
      obtain ⟨first, value⟩ := field
      obtain ⟨hvalue, hrest⟩ := List.forall_mem_cons.mp hfields
      rw [List.lookup_cons] at h
      split at h
      · exact Option.some.inj h ▸ hvalue
      · exact ih hrest h

lemma fits_required? {α : Type} {read? : Datum → Option α} {write : α → Datum} {a : α}
    (hfields : ∀ f ∈ fields, Fits f.2) (hread : Datum.KeepsFitting read? write)
    (h : fields.required? name read? = some a) : Fits (write a) := by
  obtain ⟨d, hd, ha⟩ := Option.bind_eq_some_iff.mp h
  exact hread d a (fits_lookup hfields hd) ha

lemma fits_optional? {α : Type} {read? : Datum → Option α} (write : α → Datum) {a default : α}
    (hfields : ∀ f ∈ fields, Fits f.2) (hread : Datum.KeepsFitting read? write)
    (hdefault : Fits (write default)) (h : fields.optional? name default read? = some a) :
    Fits (write a) := by
  rw [optional?] at h
  split at h
  · exact Option.some.inj h ▸ hdefault
  · next d hd => exact hread d a (fits_lookup hfields hd) h

lemma fits_optionalText? {s : String} (hfields : ∀ f ∈ fields, Fits f.2)
    (h : fields.optional? name "" Datum.text? = some s) : Fits (.text s) :=
  fits_optional? .text hfields Datum.keepsFitting_text? (Datum.fits_text (by decide)) h

lemma fits_optionalList? {α : Type} {read? : Datum → Option α} {write : α → Datum} {all : List α}
    (hfields : ∀ f ∈ fields, Fits f.2) (hread : Datum.KeepsFitting read? write)
    (h : fields.optional? name [] (Datum.listOf? read?) = some all) :
    Fits (.list (all.map write)) := by
  have hempty : Fits (.list (([] : List α).map write)) := ⟨Nat.zero_lt_succ _, trivial⟩
  exact fits_optional? (fun all => .list (all.map write)) hfields
    (Datum.keepsFitting_listOf? hread) hempty h

end Fields

end ChatCommand

/-
Data that every format has a form for.

* `Datum.fromUTF8?_utf8Bytes`, `Datum.utf8Bytes_of_fromUTF8?`: the bytes of a text are read as the
  text, and no other bytes are;
* `Datum.utf8ByteSize_ofList_le`: a text has at most four bytes for each character;
* `Datum.greatestDepth_le_iff`, `Datum.greatestEntryDepth_le_iff`: the parts of a datum are nested
  less deep;
* `Datum.IsPlain`: nothing, integers of 64 bits with or without a sign, texts, lists, and tables
  with texts for keys.
-/
import Mathlib.Tactic.Common
import ChatCommand.Data.Datum

namespace ChatCommand

namespace Datum

/-! ### Texts as bytes -/

lemma toListLoop_eq (b : ByteArray) (i : Nat) (front : List UInt8) :
    ByteArray.toList.loop b i front = front.reverse ++ b.data.toList.drop i := by
  induction i, front using ByteArray.toList.loop.induct b with
  | case1 i front h ih =>
      have hget : b.get! i = b.data.toList[i] := getElem!_pos b.data i h
      rw [ByteArray.toList.loop, if_pos h, ih, List.reverse_cons, List.append_assoc,
        List.singleton_append, hget, List.getElem_cons_drop]
  | case2 i front h =>
      have hdrop : b.data.toList.drop i = [] := List.drop_eq_nil_of_le (Nat.le_of_not_lt h)
      rw [ByteArray.toList.loop, if_neg h, hdrop, List.append_nil]

lemma toList_eq (b : ByteArray) : b.toList = b.data.toList := by
  rw [ByteArray.toList, toListLoop_eq, List.reverse_nil, List.nil_append, List.drop_zero]

/-- The bytes of a text are read as the text. -/
theorem fromUTF8?_utf8Bytes (s : String) : String.fromUTF8? ⟨(utf8Bytes s).toArray⟩ = some s := by
  have hbytes : (⟨(utf8Bytes s).toArray⟩ : ByteArray) = s.toUTF8 := by
    rw [utf8Bytes, toList_eq]
  rw [hbytes, String.fromUTF8?]
  exact dif_pos s.isValidUTF8

/-- Bytes that are read as a text are the bytes of this text. -/
theorem utf8Bytes_of_fromUTF8? {b : List UInt8} {s : String}
    (h : String.fromUTF8? ⟨b.toArray⟩ = some s) : utf8Bytes s = b := by
  rw [String.fromUTF8?] at h
  split at h
  · rw [utf8Bytes, toList_eq, ← Option.some.inj h]
    rfl
  · contradiction

lemma length_utf8Bytes (s : String) : (utf8Bytes s).length = s.utf8ByteSize := by
  rw [utf8Bytes, toList_eq]
  rfl

/-- A character takes at most four bytes. -/
lemma utf8ByteSize_ofList_le (s : List Char) : (String.ofList s).utf8ByteSize ≤ 4 * s.length := by
  have hsize : (String.ofList s).utf8ByteSize = (s.flatMap String.utf8EncodeChar).length := by
    rw [← String.size_toByteArray, String.toByteArray_ofList, List.utf8Encode,
      List.size_toByteArray]
  rw [hsize]
  clear hsize
  induction s with
  | nil => exact Nat.le_refl 0
  | cons c s ih =>
      have hc := c.utf8Size_le_four
      rw [List.flatMap_cons, List.length_append, String.length_utf8EncodeChar, List.length_cons]
      omega

/-! ### Depth -/

lemma greatestDepth_le_iff {items : List Datum} {n : Nat} :
    greatestDepth items ≤ n ↔ ∀ d ∈ items, d.depth ≤ n := by
  induction items with
  | nil => simp [greatestDepth]
  | cons d items ih => rw [greatestDepth, Nat.max_le, ih, List.forall_mem_cons]

lemma greatestEntryDepth_le_iff {entries : List (Datum × Datum)} {n : Nat} :
    greatestEntryDepth entries ≤ n ↔ ∀ e ∈ entries, e.2.depth ≤ n := by
  induction entries with
  | nil => simp [greatestEntryDepth]
  | cons e entries ih => rw [greatestEntryDepth, Nat.max_le, ih, List.forall_mem_cons]

/-! ### Data that every format has a form for -/

/-- Nothing, an integer of 64 bits, a text, a list, or a table in which texts are keys. -/
inductive IsPlain : Datum → Prop
  | null : IsPlain null
  /-- The bits are those of a number with a sign or of one without. -/
  | integer {n : Int} (least : -0x8000000000000000 ≤ n) (greatest : n < 0x10000000000000000) :
      IsPlain (integer n)
  | text (s : String) : IsPlain (text s)
  | list {items : List Datum} (items_plain : ∀ d ∈ items, IsPlain d) : IsPlain (list items)
  | table {entries : List (Datum × Datum)} (keys : ∀ e ∈ entries, ∃ s, e.1 = .text s)
      (values_plain : ∀ e ∈ entries, IsPlain e.2) : IsPlain (table entries)

end Datum

end ChatCommand

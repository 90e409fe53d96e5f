/-
What is written as MessagePack is read again.

* `MessagePack.bigEndian_writeBigEndian`: a number is what its bytes spell;
* `MessagePack.readValue?_writeInteger`, `MessagePack.readValue?_writeText`,
  `MessagePack.readValue?_listHead`, `MessagePack.readValue?_tableHead`: each form is read as what
  it was chosen for;
* `MessagePack.Fits`: the format has forms for lengths below 2³² alone;
* `MessagePack.readValue?_write`, `MessagePack.read?_write`: **plain data of such lengths is read as
  it was written**;
* `MessagePack.readsFitting_readValue?`, `MessagePack.fits_of_read?`: data of greater lengths is
  never read.
-/
import Mathlib.Algebra.Ring.Nat
import Mathlib.Data.List.Induction
import ChatCommand.Data.MessagePack
import ChatCommand.Proofs.Data.Datum

namespace ChatCommand

namespace MessagePack

/-! ### Numbers in bytes -/

lemma take?_append (s rest : List UInt8) : take? s.length (s ++ rest) = some (s, rest) := by
  simp [take?]

lemma toNat_toUInt8 {n : Nat} (h : n < 0x100) : n.toUInt8.toNat = n :=
  UInt8.toNat_ofNat_of_lt h

lemma length_writeBigEndian (width n : Nat) : (writeBigEndian width n).length = width := by
  induction width generalizing n with
  | zero => rfl
  | succ width ih => rw [writeBigEndian, List.length_append, ih, List.length_singleton]

/-- A number is what its bytes spell, if it fits in so many. -/
lemma bigEndian_writeBigEndian {width n : Nat} (h : n < 256 ^ width) :
    bigEndian (writeBigEndian width n) = n := by
  induction width generalizing n with
  | zero => simpa [writeBigEndian, bigEndian, eq_comm] using h
  | succ width ih =>
      have hdiv : n / 256 < 256 ^ width := by
        rw [Nat.pow_succ] at h
        omega
      have hspelled := ih hdiv
      rw [bigEndian] at hspelled
      rw [writeBigEndian, bigEndian, List.foldl_append, hspelled]
      rw [List.foldl_cons, List.foldl_nil, toNat_toUInt8 (by omega)]
      omega

/-- A number is read as it was written, if it fits in so many bytes. -/
lemma readNatural?_writeBigEndian {width n : Nat} (h : n < 256 ^ width) (rest : List UInt8) :
    readNatural? width (writeBigEndian width n ++ rest) = some (n, rest) := by
  have htake := take?_append (writeBigEndian width n) rest
  rw [length_writeBigEndian] at htake
  rw [readNatural?, htake]
  exact congrArg (fun n => some (n, rest)) (bigEndian_writeBigEndian h)

/-- A number of the upper half is read as the number below zero that it stands for. -/
lemma readSigned?_writeBigEndian {width n : Nat} (h : n < 256 ^ width)
    (hupper : 1 <<< (8 * width - 1) ≤ n) (rest : List UInt8) :
    readSigned? width (writeBigEndian width n ++ rest)
      = some (.integer (n - (1 <<< (8 * width) : Nat)), rest) := by
  rw [readSigned?, readNatural?_writeBigEndian h, Option.map_some]
  simp only [Nat.not_lt.mpr hupper, if_false]

/-! ### Integers, texts and heads -/

lemma readValue?_marked_unsigned {mark : UInt8} {width n : Nat} (h : n < 256 ^ width)
    (hmark : (mark, width) ∈ [((0xcc : UInt8), 1), (0xcd, 2), (0xce, 4), (0xcf, 8)]) (depth : Nat)
    (rest : List UInt8) :
    readValue? depth (marked mark width n ++ rest) = some (.integer n, rest) := by
  rw [marked, List.cons_append, (readByMark depth _).unsigned hmark,
    readNatural?_writeBigEndian h rest, Option.map_some]

lemma readValue?_marked_signed {mark : UInt8} {width n : Nat} (h : n < 256 ^ width)
    (hupper : 1 <<< (8 * width - 1) ≤ n)
    (hmark : (mark, width) ∈ [((0xd0 : UInt8), 1), (0xd1, 2), (0xd2, 4), (0xd3, 8)]) (depth : Nat)
    (rest : List UInt8) :
    readValue? depth (marked mark width n ++ rest)
      = some (.integer (n - (1 <<< (8 * width) : Nat)), rest) := by
  rw [marked, List.cons_append, (readByMark depth _).signed hmark,
    readSigned?_writeBigEndian h hupper rest]

lemma readValue?_writeInteger_ofNat {n : Nat} (h : n < 0x10000000000000000) (depth : Nat)
    (rest : List UInt8) :
    readValue? depth (writeInteger (.ofNat n) ++ rest) = some (.integer (.ofNat n), rest) := by
  simp only [writeInteger]
  split
  · next hsmall =>
      have hmark := toNat_toUInt8 (n := n) (by omega)
      rw [List.singleton_append, (readByMark depth rest).small (by omega), hmark]
      rfl
  split
  · exact readValue?_marked_unsigned (by omega) (by decide) depth rest
  split
  · exact readValue?_marked_unsigned (by omega) (by decide) depth rest
  split
  · exact readValue?_marked_unsigned (by omega) (by decide) depth rest
  · exact readValue?_marked_unsigned (by omega) (by decide) depth rest

lemma readValue?_writeInteger_negSucc {m : Nat} (h : m < 0x8000000000000000) (depth : Nat)
    (rest : List UInt8) :
    readValue? depth (writeInteger (.negSucc m) ++ rest) = some (.integer (.negSucc m), rest) := by
  -- A form of `width` bytes holds the number with `256 ^ width` added to it.
  have hsigned {mark : UInt8} {width n : Nat} (hn : n < 256 ^ width)
      (hupper : 1 <<< (8 * width - 1) ≤ n) (hm : n + m + 1 = 1 <<< (8 * width))
      (hmark : (mark, width) ∈ [((0xd0 : UInt8), 1), (0xd1, 2), (0xd2, 4), (0xd3, 8)]) :
      readValue? depth (marked mark width n ++ rest) = some (.integer (.negSucc m), rest) := by
    have hvalue : (n : Int) - (1 <<< (8 * width) : Nat) = Int.negSucc m := by omega
    rw [readValue?_marked_signed hn hupper hmark, hvalue]
  simp only [writeInteger]
  split
  · next hsmall =>
      have hmark := toNat_toUInt8 (n := 0xff - m) (by omega)
      have hvalue : ((0xff - m : Nat) : Int) - 0x100 = Int.negSucc m := by omega
      rw [List.singleton_append, (readByMark depth rest).smallNegative (by omega), hmark, hvalue]
  split
  · exact hsigned (by omega) (by omega) (by omega) (by decide)
  split
  · exact hsigned (by omega) (by omega) (by omega) (by decide)
  split
  · exact hsigned (by omega) (by omega) (by omega) (by decide)
  · exact hsigned (by omega) (by omega) (by omega) (by decide)

/-- An integer of 64 bits is read as it was written. -/
lemma readValue?_writeInteger {n : Int} (least : -0x8000000000000000 ≤ n)
    (greatest : n < 0x10000000000000000) (depth : Nat) (rest : List UInt8) :
    readValue? depth (writeInteger n ++ rest) = some (.integer n, rest) := by
  cases n with
  | ofNat n => exact readValue?_writeInteger_ofNat (Int.ofNat_lt.mp greatest) depth rest
  | negSucc m => exact readValue?_writeInteger_negSucc (by omega) depth rest

lemma readText?_utf8Bytes (s : String) (rest : List UInt8) :
    readText? (Datum.utf8Bytes s).length (Datum.utf8Bytes s ++ rest) = some (.text s, rest) := by
  rw [readText?, take?_append, Option.map_some]
  simp only [Datum.fromUTF8?_utf8Bytes]

lemma withLength?_writeBigEndian {width n : Nat} (h : n < 256 ^ width)
    (readSized? : Nat → List UInt8 → Option (Datum × List UInt8)) (rest : List UInt8) :
    withLength? width readSized? (writeBigEndian width n ++ rest) = readSized? n rest := by
  rw [withLength?, readNatural?_writeBigEndian h]
  rfl

lemma readValue?_marked_text {mark : UInt8} {width : Nat} {s : String}
    (h : (Datum.utf8Bytes s).length < 256 ^ width)
    (hmark : (mark, width) ∈ [((0xd9 : UInt8), 1), (0xda, 2), (0xdb, 4)]) (depth : Nat)
    (rest : List UInt8) :
    readValue? depth (marked mark width (Datum.utf8Bytes s).length ++ (Datum.utf8Bytes s ++ rest))
      = some (.text s, rest) := by
  rw [marked, List.cons_append, (readByMark depth _).text hmark, withLength?_writeBigEndian h,
    readText?_utf8Bytes]

/-- A text is read as it was written, if its length fits in four bytes. -/
lemma readValue?_writeText {s : String} (h : s.utf8ByteSize < 0x100000000) (depth : Nat)
    (rest : List UInt8) : readValue? depth (writeText s ++ rest) = some (.text s, rest) := by
  rw [← Datum.length_utf8Bytes] at h
  simp only [writeText, List.append_assoc]
  split
  · next hlength =>
      have hmark := toNat_toUInt8 (n := 0xa0 + (Datum.utf8Bytes s).length) (by omega)
      rw [List.singleton_append, (readByMark depth _).shortText (by omega) (by omega), hmark,
        Nat.add_sub_cancel_left, readText?_utf8Bytes]
  split
  · exact readValue?_marked_text (by omega) (by decide) depth rest
  split
  · exact readValue?_marked_text (by omega) (by decide) depth rest
  · exact readValue?_marked_text (by omega) (by decide) depth rest

/-- The head of a list is read as its length, if that fits in four bytes. -/
lemma readValue?_listHead {length : Nat} (h : length < 0x100000000) (depth : Nat)
    (rest : List UInt8) :
    readValue? (depth + 2) (writeHead 0x90 0xdc 0xdd length ++ rest)
      = readList? (readValue? (depth + 1)) length rest := by
  rw [writeHead]
  split
  · next hlength =>
      have hmark := toNat_toUInt8 (n := 0x90 + length) (by omega)
      rw [List.singleton_append, (nestedByMark depth _).shortList (by omega) (by omega), hmark,
        Nat.add_sub_cancel_left]
  split
  · rw [marked, List.cons_append, (nestedByMark depth _).list 0xdc 2 (by decide),
      withLength?_writeBigEndian (by omega)]
  · rw [marked, List.cons_append, (nestedByMark depth _).list 0xdd 4 (by decide),
      withLength?_writeBigEndian (by omega)]

/-- The head of a table is read as its length, if that fits in four bytes. -/
lemma readValue?_tableHead {length : Nat} (h : length < 0x100000000) (depth : Nat)
    (rest : List UInt8) :
    readValue? (depth + 2) (writeHead 0x80 0xde 0xdf length ++ rest)
      = readTable? (readValue? (depth + 1)) length rest := by
  rw [writeHead]
  split
  · next hlength =>
      have hmark := toNat_toUInt8 (n := 0x80 + length) (by omega)
      rw [List.singleton_append, (nestedByMark depth _).shortTable (by omega) (by omega), hmark,
        Nat.add_sub_cancel_left]
  split
  · rw [marked, List.cons_append, (nestedByMark depth _).table 0xde 2 (by decide),
      withLength?_writeBigEndian (by omega)]
  · rw [marked, List.cons_append, (nestedByMark depth _).table 0xdf 4 (by decide),
      withLength?_writeBigEndian (by omega)]

/-! ### Values -/

mutual

/-- Whether the format has forms for the lengths of all texts, lists and tables. -/
def Fits : Datum → Prop
  | .text s => s.utf8ByteSize < 0x100000000
  | .bytes b => b.length < 0x100000000
  | .list items => items.length < 0x100000000 ∧ AllFit items
  | .table entries => entries.length < 0x100000000 ∧ EntriesFit entries
  | _ => True

def AllFit : List Datum → Prop
  | [] => True
  | d :: ds => Fits d ∧ AllFit ds

def EntriesFit : List (Datum × Datum) → Prop
  | [] => True
  | (key, d) :: ds => Fits key ∧ Fits d ∧ EntriesFit ds

end

mutual

def decidableFits : (d : Datum) → Decidable (Fits d)
  | .text s => inferInstanceAs (Decidable (s.utf8ByteSize < 0x100000000))
  | .bytes b => inferInstanceAs (Decidable (b.length < 0x100000000))
  | .list items =>
    have := decidableAllFit items
    inferInstanceAs (Decidable (items.length < 0x100000000 ∧ AllFit items))
  | .table entries =>
    have := decidableEntriesFit entries
    inferInstanceAs (Decidable (entries.length < 0x100000000 ∧ EntriesFit entries))
  | .null | .truth _ | .integer _ | .signed _ | .real _ | .foreign | .unreadable => .isTrue trivial

def decidableAllFit : (items : List Datum) → Decidable (AllFit items)
  | [] => .isTrue trivial
  | d :: ds =>
    have := decidableFits d
    have := decidableAllFit ds
    inferInstanceAs (Decidable (Fits d ∧ AllFit ds))

def decidableEntriesFit : (entries : List (Datum × Datum)) → Decidable (EntriesFit entries)
  | [] => .isTrue trivial
  | (key, d) :: ds =>
    have := decidableFits key
    have := decidableFits d
    have := decidableEntriesFit ds
    inferInstanceAs (Decidable (Fits key ∧ Fits d ∧ EntriesFit ds))

end

instance (d : Datum) : Decidable (Fits d) := decidableFits d

lemma allFit_iff {items : List Datum} : AllFit items ↔ ∀ d ∈ items, Fits d := by
  induction items with
  | nil => simp [AllFit]
  | cons d items ih => rw [AllFit, ih, List.forall_mem_cons]

lemma entriesFit_iff {entries : List (Datum × Datum)} :
    EntriesFit entries ↔ ∀ e ∈ entries, Fits e.1 ∧ Fits e.2 := by
  induction entries with
  | nil => simp [EntriesFit]
  | cons e entries ih => rw [EntriesFit, ih, List.forall_mem_cons, and_assoc]

/-- Things are read one after the other, if each is read where it is written. -/
lemma readMany?_flatMap {α : Type} {readOne? : List UInt8 → Option (α × List UInt8)}
    {writeOne : α → List UInt8} {all : List α}
    (h : ∀ a ∈ all, ∀ rest, readOne? (writeOne a ++ rest) = some (a, rest)) (rest : List UInt8) :
    readMany? readOne? all.length (all.flatMap writeOne ++ rest) = some (all, rest) := by
  induction all with
  | nil => rfl
  | cons a all ih =>
      have hall := ih fun b hb => h b (List.mem_cons_of_mem _ hb)
      rw [List.length_cons, readMany?, List.flatMap_cons, List.append_assoc,
        h a List.mem_cons_self]
      simp [hall]

lemma writeItems_eq (items : List Datum) : writeItems items = items.flatMap write := by
  induction items with
  | nil => rfl
  | cons item items ih => rw [writeItems, ih, List.flatMap_cons]

lemma writeEntries_eq (entries : List (Datum × Datum)) :
    writeEntries entries = entries.flatMap fun e => write e.1 ++ write e.2 := by
  induction entries with
  | nil => rfl
  | cons entry entries ih => rw [writeEntries, ih, List.flatMap_cons]

/-- **A datum is read where it is written**, if the format has forms for its lengths and it is not
nested too deep. -/
theorem readValue?_write {d : Datum} (hd : d.IsPlain) (hfits : Fits d) (depth : Nat)
    (hdepth : d.depth < depth) (rest : List UInt8) :
    readValue? depth (write d ++ rest) = some (d, rest) := by
  induction hd generalizing depth rest with
  | null => exact (readByMark depth rest).null
  | integer least greatest => exact readValue?_writeInteger least greatest depth rest
  | text s => exact readValue?_writeText hfits depth rest
  | @list items _ ih =>
      obtain ⟨depth, rfl⟩ : ∃ n, depth = n + 2 := ⟨depth - 2, by rw [Datum.depth] at hdepth; omega⟩
      obtain ⟨hlength, hitems⟩ := hfits
      rw [write, List.append_assoc, readValue?_listHead hlength, readList?, writeItems_eq,
        readMany?_flatMap fun d hd rest => ?_]
      · rfl
      · have hless := Datum.greatestDepth_le_iff.mp (Nat.le_refl _) d hd
        rw [Datum.depth] at hdepth
        exact ih d hd (allFit_iff.mp hitems d hd) (depth + 1) (by omega) rest
  | @table entries hkeys _ ih =>
      obtain ⟨depth, rfl⟩ : ∃ n, depth = n + 2 := ⟨depth - 2, by rw [Datum.depth] at hdepth; omega⟩
      obtain ⟨hlength, hentries⟩ := hfits
      rw [write, List.append_assoc, readValue?_tableHead hlength, readTable?, writeEntries_eq,
        readMany?_flatMap fun e he rest => ?_]
      · rfl
      · obtain ⟨key, value⟩ := e
        obtain ⟨s, rfl⟩ := hkeys _ he
        obtain ⟨hkey, hvalue⟩ := entriesFit_iff.mp hentries _ he
        have hless := Datum.greatestEntryDepth_le_iff.mp (Nat.le_refl _) _ he
        rw [Datum.depth] at hdepth
        have hreadKey := readValue?_writeText hkey (depth + 1) (write value ++ rest)
        have hreadValue := ih _ he hvalue (depth + 1) (by omega) rest
        rw [List.append_assoc]
        simp [write, hreadKey, hreadValue]

/-- **What is written as MessagePack is read again**. -/
theorem read?_write {d : Datum} (hd : d.IsPlain) (hfits : Fits d) (hdepth : d.depth < depthLimit) :
    read? (write d) = some d := by
  have hread := readValue?_write hd hfits depthLimit hdepth []
  rw [List.append_nil] at hread
  rw [read?, hread]
  rfl

/-! ### What has a form -/

/-- Whatever is read has lengths that the format has forms for. -/
def ReadsFitting (read : Option (Datum × List UInt8)) : Prop :=
  ∀ d rest, read = some (d, rest) → Fits d

lemma readsFitting_none : ReadsFitting none := nofun

lemma readsFitting_some {d : Datum} (h : Fits d) (rest : List UInt8) :
    ReadsFitting (some (d, rest)) := by
  intro d' rest' hd
  simp only [Option.some.injEq, Prod.mk.injEq] at hd
  exact hd.1 ▸ h

lemma readsFitting_map {α : Type} {read : Option α} {f : α → Datum × List UInt8}
    (h : ∀ a, read = some a → Fits (f a).1) : ReadsFitting (read.map f) := by
  intro d rest hd
  obtain ⟨a, ha, hf⟩ := Option.map_eq_some_iff.mp hd
  rw [show d = (f a).1 from congrArg Prod.fst hf.symm]
  exact h a ha

lemma length_of_take? {count : Nat} {s bytes rest : List UInt8}
    (h : take? count s = some (bytes, rest)) : bytes.length = count := by
  rw [take?] at h
  split at h
  · next hlength =>
      simp only [Option.some.injEq, Prod.mk.injEq] at h
      rw [← h.1, hlength]
  · contradiction

lemma bigEndian_lt (bytes : List UInt8) : bigEndian bytes < 256 ^ bytes.length := by
  induction bytes using List.reverseRecOn with
  | nil => simp [bigEndian]
  | append_singleton bytes b ih =>
      have hb := b.toNat_lt
      rw [bigEndian] at ih
      rw [bigEndian, List.foldl_append, List.length_append, List.length_singleton, Nat.pow_succ]
      simp only [List.foldl_cons, List.foldl_nil]
      omega

lemma readsFitting_readText? {length : Nat} (h : length < 0x100000000) (s : List UInt8) :
    ReadsFitting (readText? length s) := by
  refine readsFitting_map fun ⟨bytes, rest⟩ htake => ?_
  have hlength := length_of_take? htake
  simp only
  cases htext : String.fromUTF8? ⟨bytes.toArray⟩ with
  | none => exact show bytes.length < 0x100000000 from hlength ▸ h
  | some text =>
      rw [← Datum.utf8Bytes_of_fromUTF8? htext, Datum.length_utf8Bytes] at hlength
      exact show text.utf8ByteSize < 0x100000000 from hlength ▸ h

lemma readsFitting_readBytes? {length : Nat} (h : length < 0x100000000) (s : List UInt8) :
    ReadsFitting (readBytes? length s) :=
  readsFitting_map fun (bytes, _) htake =>
    show bytes.length < 0x100000000 from length_of_take? htake ▸ h

lemma readsFitting_readSigned? (width : Nat) (s : List UInt8) :
    ReadsFitting (readSigned? width s) := by
  refine readsFitting_map fun ⟨n, rest⟩ _ => ?_
  simp only
  split <;> trivial

lemma readsFitting_withLength? {width : Nat} (hwidth : width ≤ 4)
    {readSized? : Nat → List UInt8 → Option (Datum × List UInt8)}
    (h : ∀ length, length < 0x100000000 → ∀ s, ReadsFitting (readSized? length s))
    (s : List UInt8) : ReadsFitting (withLength? width readSized? s) := by
  intro d rest hd
  obtain ⟨⟨length, rest'⟩, hlength, hsized⟩ := Option.bind_eq_some_iff.mp hd
  obtain ⟨⟨bytes, rest''⟩, hbytes, heq⟩ := Option.map_eq_some_iff.mp hlength
  simp only [Prod.mk.injEq] at heq
  refine h length ?_ rest' d rest hsized
  have hlt := bigEndian_lt bytes
  rw [length_of_take? hbytes, heq.1] at hlt
  exact Nat.lt_of_lt_of_le hlt (Nat.pow_le_pow_right (by omega) hwidth)

lemma length_of_readMany? {α : Type} {readOne? : List UInt8 → Option (α × List UInt8)} {count : Nat}
    {s rest : List UInt8} {all : List α} (h : readMany? readOne? count s = some (all, rest)) :
    all.length = count ∧ ∀ a ∈ all, ∃ s rest, readOne? s = some (a, rest) := by
  induction count generalizing s all with
  | zero =>
      simp only [readMany?, Option.some.injEq, Prod.mk.injEq] at h
      simp [← h.1]
  | succ count ih =>
      simp only [readMany?, Option.bind_eq_bind, Option.bind_eq_some_iff, Option.some.injEq,
        Prod.mk.injEq] at h
      obtain ⟨⟨a, s'⟩, ha, ⟨others, s''⟩, hothers, rfl, rfl⟩ := h
      obtain ⟨hlength, hall⟩ := ih hothers
      exact ⟨by rw [List.length_cons, hlength], List.forall_mem_cons.mpr ⟨⟨s, s', ha⟩, hall⟩⟩

lemma readsFitting_readList? {readOne? : List UInt8 → Option (Datum × List UInt8)}
    (h : ∀ s, ReadsFitting (readOne? s)) {count : Nat} (hcount : count < 0x100000000)
    (s : List UInt8) : ReadsFitting (readList? readOne? count s) := by
  refine readsFitting_map fun ⟨items, rest⟩ hmany => ?_
  obtain ⟨hlength, hitems⟩ := length_of_readMany? hmany
  refine ⟨hlength ▸ hcount, allFit_iff.mpr fun d hd => ?_⟩
  obtain ⟨s, rest, hread⟩ := hitems d hd
  exact h s d rest hread

lemma readsFitting_readTable? {readOne? : List UInt8 → Option (Datum × List UInt8)}
    (h : ∀ s, ReadsFitting (readOne? s)) {count : Nat} (hcount : count < 0x100000000)
    (s : List UInt8) : ReadsFitting (readTable? readOne? count s) := by
  refine readsFitting_map fun ⟨entries, rest⟩ hmany => ?_
  obtain ⟨hlength, hentries⟩ := length_of_readMany? hmany
  refine ⟨hlength ▸ hcount, entriesFit_iff.mpr fun ⟨key, value⟩ he => ?_⟩
  obtain ⟨s, rest, hread⟩ := hentries _ he
  simp only [Option.bind_eq_bind, Option.bind_eq_some_iff, Option.some.injEq,
    Prod.mk.injEq] at hread
  obtain ⟨⟨key, s'⟩, hkey, ⟨value, s''⟩, hvalue, ⟨rfl, rfl⟩, rfl⟩ := hread
  exact ⟨h s key s' hkey, h s' value s'' hvalue⟩

/-- Items and entries are read with what reads values less deep, if there is room for them. -/
lemma readsFitting_nested {depth : Nat}
    (ih : ∀ d < depth, ∀ s, ReadsFitting (readValue? d s))
    {readAll? : (List UInt8 → Option (Datum × List UInt8)) →
      Nat → List UInt8 → Option (Datum × List UInt8)}
    (h : ∀ readOne?, (∀ s, ReadsFitting (readOne? s)) →
      ∀ count, count < 0x100000000 → ∀ s, ReadsFitting (readAll? readOne? count s))
    (count : Nat) (hcount : count < 0x100000000) (s : List UInt8) :
    ReadsFitting ((match depth with
      | 0 | 1 => fun _ _ => none
      | depth + 1 => readAll? (readValue? depth) :
        Nat → List UInt8 → Option (Datum × List UInt8)) count s) := by
  split
  · exact readsFitting_none
  · exact readsFitting_none
  · next depth _ => exact h _ (ih depth (Nat.lt_succ_self depth)) count hcount s

/-- Whatever is read has lengths that the format has forms for. -/
theorem readsFitting_readValue? (depth : Nat) (s : List UInt8) :
    ReadsFitting (readValue? depth s) := by
  induction depth using Nat.strongRecOn generalizing s with
  | ind depth ih =>
      rw [readValue?.eq_def]
      split
      · exact readsFitting_none
      · next first rest =>
          have hfirst := first.toNat_lt
          extract_lets mark items entries unsigned foreign
          have hitems : ∀ count, count < 0x100000000 → ∀ s, ReadsFitting (items count s) :=
            readsFitting_nested ih fun _ h _ hcount => readsFitting_readList? h hcount
          have hentries : ∀ count, count < 0x100000000 → ∀ s, ReadsFitting (entries count s) :=
            readsFitting_nested ih fun _ h _ hcount => readsFitting_readTable? h hcount
          have hunsigned (width : Nat) : ReadsFitting (unsigned width) :=
            readsFitting_map fun _ _ => trivial
          have hforeign (length : Nat) (s : List UInt8) : ReadsFitting (foreign length s) := by
            simp only [foreign]
            split
            · exact readsFitting_none
            · exact readsFitting_map fun _ _ => trivial
          have hsized {readSized? : Nat → List UInt8 → Option (Datum × List UInt8)}
              (h : ∀ length, length < 0x100000000 → ∀ s, ReadsFitting (readSized? length s))
              (width : Nat) (hwidth : width ≤ 4) :
              ReadsFitting (withLength? width readSized? rest) :=
            readsFitting_withLength? hwidth h rest
          have hbytes := hsized fun _ h => readsFitting_readBytes? h
          have htexts := hsized fun _ h => readsFitting_readText? h
          have hforeigns := hsized fun length _ => hforeign length
          have hlists := hsized hitems
          have htables := hsized hentries
          have hmark : mark < 0x100 := hfirst
          clear_value mark items entries unsigned foreign
          split
          · exact readsFitting_some (by trivial) rest
          split
          · exact hentries _ (by omega) _
          split
          · exact hitems _ (by omega) _
          split
          · exact readsFitting_readText? (by omega) _
          split
          · exact readsFitting_some (by trivial) rest
          -- one case for each mark that stands alone, in the order of the marks
          split
          · exact readsFitting_some (by trivial) rest
          · exact readsFitting_some (by trivial) rest
          · exact readsFitting_some (by trivial) rest
          · exact hbytes 1 (by decide)
          · exact hbytes 2 (by decide)
          · exact hbytes 4 (by decide)
          · exact hforeigns 1 (by decide)
          · exact hforeigns 2 (by decide)
          · exact hforeigns 4 (by decide)
          · exact readsFitting_map fun _ _ => trivial
          · exact readsFitting_map fun _ _ => trivial
          · exact hunsigned 1
          · exact hunsigned 2
          · exact hunsigned 4
          · exact hunsigned 8
          · exact readsFitting_readSigned? 1 rest
          · exact readsFitting_readSigned? 2 rest
          · exact readsFitting_readSigned? 4 rest
          · exact readsFitting_readSigned? 8 rest
          · exact hforeign 1 rest
          · exact hforeign 2 rest
          · exact hforeign 4 rest
          · exact hforeign 8 rest
          · exact hforeign 16 rest
          · exact htexts 1 (by decide)
          · exact htexts 2 (by decide)
          · exact htexts 4 (by decide)
          · exact hlists 2 (by decide)
          · exact hlists 4 (by decide)
          · exact htables 2 (by decide)
          · exact htables 4 (by decide)
          · exact readsFitting_none

/-- **What is read could have been written**: the format has forms for all its lengths. -/
theorem fits_of_read? {bytes : List UInt8} {d : Datum} (h : read? bytes = some d) : Fits d := by
  obtain ⟨⟨d, rest⟩, hread, rfl⟩ := Option.map_eq_some_iff.mp h
  exact readsFitting_readValue? depthLimit bytes d rest hread

end MessagePack

end ChatCommand

/-
What is written as JSON is read again.

* `Json.readNumeral?_integer`: the numeral of an integer of 64 bits stands for it, if what follows
  does not go on with a number;
* `Json.readPieces?_writeChar`, `Json.readPieces?_writeString`: each character of a string is read
  as one piece, and together they are the string;
* `Json.IsReadAt`: a datum is read where it is written, at any level and whatever follows;
* `Json.readItems?_write`, `Json.readEntries?_write`: so are lists and tables of such data;
* `Json.isReadAt_of_isPlain`, `Json.read?_write`: **plain data is read as it was written**.
-/
import Mathlib.Data.List.Basic
import Mathlib.Data.List.TakeDrop
import ChatCommand.Data.Json
import ChatCommand.Proofs.Data.Datum

namespace ChatCommand

namespace Json

/-! ### White space -/

/-- The white space of JSON. -/
def blanks : List Char := [' ', '\n', '\t', '\r']

lemma skipBlanks_cons {c : Char} (h : c ∉ blanks) (s : List Char) :
    skipBlanks (c :: s) = c :: s := by
  refine List.dropWhile_cons_of_neg ?_
  simpa [blanks, and_assoc] using h

lemma skipBlanks_space (s : List Char) : skipBlanks (' ' :: s) = skipBlanks s :=
  List.dropWhile_cons_of_pos rfl

lemma skipBlanks_indentation (level : Nat) (s : List Char) :
    skipBlanks (indentation level ++ s) = skipBlanks s := by
  simp only [skipBlanks, indentation]
  rw [List.cons_append, List.dropWhile_cons_of_pos (by decide)]
  induction 2 * level with
  | zero => rfl
  | succ n ih =>
      rw [List.replicate_succ, List.cons_append, List.dropWhile_cons_of_pos (by decide), ih]

/-! ### Numbers -/

/-- The text does not go on with a number. -/
def EndsNumber (s : List Char) : Prop :=
  ∀ c ∈ s.head?, c.isDigit = false ∧ c ≠ '.' ∧ c ≠ 'e' ∧ c ≠ 'E'

lemma readDigits?_append {digits rest : List Char} (hne : digits ≠ [])
    (hdigits : ∀ c ∈ digits, c.isDigit = true) (hrest : EndsNumber rest) :
    readDigits? (digits ++ rest) = some (digits, rest) := by
  have htake : (digits ++ rest).takeWhile Char.isDigit = digits := by
    rw [List.takeWhile_append_of_pos hdigits]
    cases rest with
    | nil => simp
    | cons c rest => rw [List.takeWhile_cons_of_neg (by simp [(hrest c rfl).1]), List.append_nil]
  have hdrop : (digits ++ rest).dropWhile Char.isDigit = rest := by
    rw [List.dropWhile_append_of_pos hdigits]
    cases rest with
    | nil => simp
    | cons c rest => rw [List.dropWhile_cons_of_neg (by simp [(hrest c rfl).1])]
  rw [readDigits?, List.span_eq_takeWhile_dropWhile, htake, hdrop]
  simp [hne]

lemma readFraction?_of_endsNumber {s : List Char} (h : EndsNumber s) :
    readFraction? s = some (none, s) := by
  unfold readFraction?
  split
  · exact absurd rfl (h '.' rfl).2.1
  · rfl

lemma readExponent?_of_endsNumber {s : List Char} (h : EndsNumber s) :
    readExponent? s = some (none, s) := by
  cases s with
  | nil => rfl
  | cons c s =>
      obtain ⟨-, -, he, hE⟩ := h c rfl
      simp [readExponent?, he, hE]

/-- No number but zero begins with a zero. -/
lemma head?_toDigits {n : Nat} (h : 0 < n) : (Nat.toDigits 10 n).head? ≠ some '0' := by
  induction n using Nat.strongRecOn with
  | ind n ih =>
      by_cases hn : n < 10
      · rw [Nat.toDigits_of_lt_base hn, List.head?_cons, Ne, Option.some_inj,
          Nat.digitChar_eq_zero]
        omega
      · rw [Nat.toDigits_of_base_le (by omega) (by omega),
          List.head?_append_of_ne_nil _ Nat.toDigits_ne_nil]
        exact ih (n / 10) (by omega) (by omega)

/-- A number is read digit by digit up to its end. -/
lemma readNumeral?_toDigits (n : Nat) {rest : List Char} (hrest : EndsNumber rest) :
    readNumeral? (Nat.toDigits 10 n ++ rest) = some (⟨false, Nat.toDigits 10 n, none, none⟩, rest)
      ∧ readNumeral? ('-' :: (Nat.toDigits 10 n ++ rest))
        = some (⟨true, Nat.toDigits 10 n, none, none⟩, rest) := by
  have hall : ∀ c ∈ Nat.toDigits 10 n, c.isDigit = true :=
    fun c hc => Nat.isDigit_of_mem_toDigits (by omega) (by omega) hc
  have hdigits := readDigits?_append Nat.toDigits_ne_nil hall hrest
  have hzero : (Nat.toDigits 10 n).length ≠ 1 → (Nat.toDigits 10 n).head? ≠ some '0' := by
    by_cases hn : n = 0
    · rw [hn]
      exact absurd rfl
    · exact fun _ => head?_toDigits (Nat.pos_of_ne_zero hn)
  constructor
  · rw [readNumeral?]
    · simpa [hdigits, readFraction?_of_endsNumber hrest, readExponent?_of_endsNumber hrest]
        using hzero
    · intro rest' h
      obtain ⟨c, digits, hc⟩ := List.exists_cons_of_ne_nil (Nat.toDigits_ne_nil (b := 10) (n := n))
      rw [hc, List.cons_append] at h
      have hsign : ('-' : Char) ∈ Nat.toDigits 10 n := by
        rw [hc, (List.cons.inj h).1]
        exact List.mem_cons_self
      exact absurd (hall '-' hsign) (by decide)
  · rw [readNumeral?]
    simpa [hdigits, readFraction?_of_endsNumber hrest, readExponent?_of_endsNumber hrest]
      using hzero

/-- Digits make a number no smaller. -/
lemma le_ofDigitChars (digits : List Char) (significand : Nat) :
    significand ≤ Nat.ofDigitChars 10 digits significand := by
  induction digits generalizing significand with
  | nil => exact Nat.le_refl _
  | cons c digits ih =>
      refine Nat.le_trans ?_ (ih (10 * significand + (c.toNat - '0'.toNat)))
      omega

/-- Digits are appended one by one, if the number that they spell keeps within 64 bits. -/
lemma appendDigits_eq (digits : List Char) (significand appended : Nat)
    (h : Nat.ofDigitChars 10 digits significand < 0x10000000000000000) :
    appendDigits significand appended digits
      = (Nat.ofDigitChars 10 digits significand, appended + digits.length, 0) := by
  induction digits generalizing significand appended with
  | nil => rfl
  | cons c digits ih =>
      have hnext : Nat.ofDigitChars 10 (c :: digits) significand
          = Nat.ofDigitChars 10 digits (significand * 10 + (c.toNat - '0'.toNat)) := by
        rw [Nat.mul_comm]
        rfl
      rw [hnext] at h ⊢
      have hle := le_ofDigitChars digits (significand * 10 + (c.toNat - '0'.toNat))
      rw [appendDigits, if_pos (Nat.lt_of_le_of_lt hle h), ih _ _ h, List.length_cons]
      simp only [Nat.add_assoc, Nat.add_comm 1]

lemma toList_toString_ofNat (n : Nat) : (toString (Int.ofNat n)).toList = Nat.toDigits 10 n := by
  rw [show toString (Int.ofNat n) = Nat.repr n from rfl, Nat.repr, String.toList_ofList]

lemma toList_toString_negSucc (n : Nat) :
    (toString (Int.negSucc n)).toList = '-' :: Nat.toDigits 10 (n + 1) := by
  rw [show toString (Int.negSucc n) = "-" ++ Nat.repr (n + 1) from rfl, String.toList_append,
    Nat.repr, String.toList_ofList, String.toList_ofList]
  rfl

/-- The numeral of an integer of 64 bits stands for it. -/
lemma readNumeral?_integer {n : Int} (least : -0x8000000000000000 ≤ n)
    (greatest : n < 0x10000000000000000) {rest : List Char} (hrest : EndsNumber rest) :
    (readNumeral? ((toString n).toList ++ rest)).map (fun (numeral, rest) => (numeral.datum, rest))
      = some (.integer n, rest) := by
  cases n with
  | ofNat n =>
      have hn : n < 0x10000000000000000 := Int.ofNat_lt.mp greatest
      have happend := appendDigits_eq (Nat.toDigits 10 n) 0 0
        (by rwa [Nat.ofDigitChars_ten_toDigits])
      rw [Nat.ofDigitChars_ten_toDigits] at happend
      rw [toList_toString_ofNat, (readNumeral?_toDigits n hrest).1, Option.map_some]
      simp [Numeral.datum, happend]
  | negSucc n =>
      have hn : n + 1 ≤ 0x8000000000000000 := by omega
      have happend := appendDigits_eq (Nat.toDigits 10 (n + 1)) 0 0
        (by rw [Nat.ofDigitChars_ten_toDigits]; omega)
      rw [Nat.ofDigitChars_ten_toDigits] at happend
      rw [toList_toString_negSucc, List.cons_append, (readNumeral?_toDigits (n + 1) hrest).2,
        Option.map_some]
      simp [Numeral.datum, happend, hn, Int.negSucc_eq]

/-! ### Strings -/

/-- The characters with a form of two characters. -/
def shortForms : List Char := ['"', '\\', '\x08', '\x0c', '\n', '\r', '\t']

/-- The piece that the form of a character is read as: control characters are given by number. -/
def pieceOf (c : Char) : Piece :=
  if c ∈ shortForms then .char c else if c.toNat < 0x20 then .unit c.toNat else .char c

lemma hexValue?_digitChar : ∀ n < 16, hexValue? (Nat.digitChar n) = some n := by
  decide

/-- A backslash and a letter are read as a character. -/
lemma readPieces?_escaped {c d : Char} (hc : escaped? c = some d) (rest : List Char) :
    readPieces? ('\\' :: c :: rest)
      = (readPieces? rest).map fun (pieces, rest) => (.char d :: pieces, rest) := by
  rw [readPieces?, hc]
  · cases readPieces? rest <;> rfl
  · rintro _ _ _ _ _ rfl
    contradiction

/-- The form of a character is read as one piece. -/
lemma readPieces?_writeChar (c : Char) (rest : List Char) :
    readPieces? (writeChar c ++ rest)
      = (readPieces? rest).map fun (pieces, rest) => (pieceOf c :: pieces, rest) := by
  by_cases hshort : c ∈ shortForms
  · rw [pieceOf, if_pos hshort]
    simp only [shortForms, List.mem_cons, List.not_mem_nil, or_false] at hshort
    rcases hshort with rfl | rfl | rfl | rfl | rfl | rfl | rfl <;>
      exact readPieces?_escaped rfl rest
  · rw [pieceOf, if_neg hshort]
    simp only [shortForms, List.mem_cons, List.not_mem_nil, or_false, not_or] at hshort
    have hwrite : writeChar c = if c.toNat < 0x20 then
        ['\\', 'u', '0', '0', Nat.digitChar (c.toNat / 16), Nat.digitChar (c.toNat % 16)]
        else [c] := by
      simp [writeChar, hshort]
    rw [hwrite]
    split
    · next hc =>
      have hunit : hexUnit? '0' '0' (Nat.digitChar (c.toNat / 16)) (Nat.digitChar (c.toNat % 16))
          = some c.toNat := by
        have hzero : hexValue? '0' = some 0 := by decide
        have hdivide : ((0 * 16 + 0) * 16 + c.toNat / 16) * 16 + c.toNat % 16 = c.toNat := by omega
        rw [hexUnit?, hzero, hexValue?_digitChar _ (by omega), hexValue?_digitChar _ (by omega)]
        exact congrArg some hdivide
      simp only [List.cons_append, List.nil_append]
      rw [readPieces?, hunit]
      cases readPieces? rest <;> rfl
    · next hc =>
      have hplain : (c == '\\' || decide (c.toNat < 0x20)) = false := by simp [hshort, hc]
      rw [List.singleton_append, readPieces?, if_neg (by rw [hplain]; exact Bool.false_ne_true)]
      · cases readPieces? rest <;> rfl
      · exact hshort.1
      · exact fun _ _ _ _ _ h _ => hshort.2.1 h
      · exact fun _ _ h _ => hshort.2.1 h

lemma readPieces?_flatMap (cs rest : List Char) :
    readPieces? (cs.flatMap writeChar ++ '"' :: rest) = some (cs.map pieceOf, rest) := by
  induction cs with
  | nil => rfl
  | cons c cs ih =>
      rw [List.flatMap_cons, List.append_assoc, readPieces?_writeChar, ih]
      rfl

/-- Control characters are no halves of characters. -/
lemma joinPieces?_unit {n : Nat} (hn : n < 0x20) (pieces : List Piece) :
    joinPieces? (.unit n :: pieces) = (joinPieces? pieces).map (Char.ofNat n :: ·) := by
  have hhigh : isHighHalf n = false := by
    simp only [isHighHalf, Bool.and_eq_false_iff, decide_eq_false_iff_not]
    omega
  have hlow : isLowHalf n = false := by
    simp only [isLowHalf, Bool.and_eq_false_iff, decide_eq_false_iff_not]
    omega
  match pieces with
  | [] => simp [joinPieces?, hhigh, hlow]
  | .char c :: pieces => simp [joinPieces?, hhigh, hlow]
  | .unit m :: pieces => simp [joinPieces?, hhigh, hlow]

lemma joinPieces?_map_pieceOf (cs : List Char) : joinPieces? (cs.map pieceOf) = some cs := by
  induction cs with
  | nil => rfl
  | cons c cs ih =>
      rw [List.map_cons, pieceOf]
      split
      · rw [joinPieces?, ih, Option.map_some]
      · split
        · next hc => rw [joinPieces?_unit hc, ih, Option.map_some, Char.ofNat_toNat]
        · rw [joinPieces?, ih, Option.map_some]

/-- A string is read as it was written. -/
lemma readPieces?_writeString (s : String) (rest : List Char) :
    ∃ pieces, readPieces? (s.toList.flatMap writeChar ++ '"' :: rest) = some (pieces, rest)
      ∧ stringDatum pieces = .text s := by
  refine ⟨_, readPieces?_flatMap s.toList rest, ?_⟩
  simp only [stringDatum, joinPieces?_map_pieceOf, String.ofList_toList]

/-! ### Values -/

lemma exists_toString_eq_cons (n : Int) :
    ∃ c s, (toString n).toList = c :: s ∧ (c.isDigit = true ∨ c = '-') := by
  cases n with
  | ofNat n =>
      obtain ⟨c, s, hc⟩ := List.exists_cons_of_ne_nil (Nat.toDigits_ne_nil (b := 10) (n := n))
      have hdigit : c ∈ Nat.toDigits 10 n := hc ▸ List.mem_cons_self
      exact ⟨c, s, (toList_toString_ofNat n).trans hc,
        .inl (Nat.isDigit_of_mem_toDigits (by omega) (by omega) hdigit)⟩
  | negSucc n => exact ⟨'-', _, toList_toString_negSucc n, .inr rfl⟩

lemma ne_of_numeral {c d : Char} (h : c.isDigit = true ∨ c = '-') (hd : d.isDigit = false)
    (hsign : d ≠ '-') : c ≠ d := by
  rintro rfl
  rcases h with h | h
  · rw [hd] at h
    contradiction
  · exact hsign h

lemma not_mem_blanks_of_numeral {c : Char} (h : c.isDigit = true ∨ c = '-') : c ∉ blanks := by
  have hothers : ∀ d ∈ blanks, d.isDigit = false ∧ d ≠ '-' := by simp [blanks]
  exact fun hc => ne_of_numeral h (hothers c hc).1 (hothers c hc).2 rfl

/-- What begins with a digit or a sign is read as a number. -/
lemma readValue?_numeral {c : Char} (h : c.isDigit = true ∨ c = '-') (fuel : Nat) (s : List Char) :
    readValue? (fuel + 1) (c :: s)
      = (readNumeral? (c :: s)).map fun (n, rest) => (n.datum, rest) := by
  have hne (d : Char) (hd : d.isDigit = false) (hsign : d ≠ '-') : c ≠ d :=
    ne_of_numeral h hd hsign
  have hblank : c ∉ blanks := not_mem_blanks_of_numeral h
  rw [readValue?, skipBlanks_cons hblank]
  split
  · next hc => exact absurd (List.cons.inj hc).1 (hne _ (by decide) (by decide))
  · next hc => exact absurd (List.cons.inj hc).1 (hne _ (by decide) (by decide))
  · next hc => exact absurd (List.cons.inj hc).1 (hne _ (by decide) (by decide))
  · next hc => exact absurd (List.cons.inj hc).1 (hne _ (by decide) (by decide))
  · next hc => exact absurd (List.cons.inj hc).1 (hne _ (by decide) (by decide))
  · next hc =>
      obtain ⟨rfl, rfl⟩ := List.cons.inj hc
      have hbrace : (c == openBrace) = false :=
        beq_eq_false_iff_ne.mpr (hne _ (by decide) (by decide))
      rw [hbrace]
      rfl
  · next hc => contradiction

/-- The text begins with a value. -/
def Begins (s : List Char) : Prop :=
  ∃ c rest, s = c :: rest ∧ c ∉ blanks ∧ c ≠ ']'

/-- The datum is read where it is written, whatever follows, with fuel enough for its form. -/
def IsReadAt (d : Datum) : Prop :=
  ∀ level fuel rest, EndsNumber rest → 2 * (writeAt level d).length ≤ fuel →
    readValue? fuel (writeAt level d ++ rest) = some (d, rest)

lemma begins_writeAt {d : Datum} (hd : d.IsPlain) (level : Nat) : Begins (writeAt level d) := by
  cases hd with
  | null => exact ⟨'n', _, rfl, by decide⟩
  | @integer n least greatest =>
      obtain ⟨c, s, hn, hc⟩ := exists_toString_eq_cons n
      exact ⟨c, s, hn, not_mem_blanks_of_numeral hc, ne_of_numeral hc (by decide) (by decide)⟩
  | text s => exact ⟨'"', _, rfl, by decide⟩
  | @list items _ => cases items <;> exact ⟨'[', _, by rw [writeAt], by decide⟩
  | @table entries _ _ => cases entries <;> exact ⟨openBrace, _, by rw [writeAt], by decide⟩

lemma readValue?_integer {n : Int} (least : -0x8000000000000000 ≤ n)
    (greatest : n < 0x10000000000000000) (fuel : Nat) {rest : List Char} (hrest : EndsNumber rest) :
    readValue? (fuel + 1) ((toString n).toList ++ rest) = some (.integer n, rest) := by
  have hread := readNumeral?_integer least greatest hrest
  obtain ⟨c, s, hn, hc⟩ := exists_toString_eq_cons n
  rw [hn, List.cons_append] at hread ⊢
  rw [readValue?_numeral hc, hread]

lemma skipBlanks_writeString (s : String) (rest : List Char) :
    skipBlanks (writeString s ++ rest) = '"' :: (s.toList.flatMap writeChar ++ '"' :: rest) := by
  rw [writeString, List.cons_append, List.append_assoc, skipBlanks_cons (by decide)]
  rfl

lemma readValue?_text (s : String) (fuel : Nat) (rest : List Char) :
    readValue? (fuel + 1) (writeString s ++ rest) = some (.text s, rest) := by
  obtain ⟨pieces, hpieces, hs⟩ := readPieces?_writeString s rest
  rw [readValue?, skipBlanks_writeString]
  simp only [hpieces, hs, Option.map_some]

lemma endsNumber_writeItems (level : Nat) (items : List Datum) (rest : List Char) :
    EndsNumber (writeItems level items ++ rest) := by
  cases items <;> simp [EndsNumber, writeItems, indentation]

/-- The items of a list are read, if each is read where it is written. -/
lemma readItems?_write (level : Nat) {item : Datum} {items : List Datum}
    (h : ∀ d ∈ item :: items, IsReadAt d) (fuel : Nat) (rest : List Char)
    (hfuel : 2 * ((writeAt (level + 1) item).length + (writeItems level items).length) + 1 ≤ fuel) :
    readItems? fuel (writeAt (level + 1) item ++ writeItems level items ++ rest)
      = some (item :: items, rest) := by
  induction items generalizing item fuel with
  | nil =>
      obtain ⟨fuel, rfl⟩ := Nat.exists_eq_add_of_le' (Nat.le_trans (Nat.le_add_left 1 _) hfuel)
      have hitem := h item List.mem_cons_self (level + 1) fuel _
        (endsNumber_writeItems level [] rest) (by omega)
      rw [readItems?, List.append_assoc, hitem]
      simp only [writeItems, List.append_assoc, skipBlanks_indentation]
      rfl
  | cons next items ih =>
      obtain ⟨fuel, rfl⟩ := Nat.exists_eq_add_of_le' (Nat.le_trans (Nat.le_add_left 1 _) hfuel)
      have hitem := h item List.mem_cons_self (level + 1) fuel _
        (endsNumber_writeItems level (next :: items) rest) (by omega)
      rw [writeItems, List.length_cons, List.length_append, List.length_append] at hfuel
      have hnext : readItems? fuel (indentation (level + 1) ++ writeAt (level + 1) next
          ++ writeItems level items ++ rest) = some (next :: items, rest) := by
        rw [List.append_assoc, List.append_assoc, readItems?_congr (skipBlanks_indentation _ _),
          ← List.append_assoc]
        exact ih (fun d hd => h d (List.mem_cons_of_mem _ hd)) fuel (by omega)
      rw [readItems?, List.append_assoc, hitem]
      simp only [writeItems, List.cons_append]
      rw [skipBlanks_cons (by decide)]
      exact congrArg (Option.map _) hnext

lemma endsNumber_writeEntries (level : Nat) (entries : List (Datum × Datum)) (rest : List Char) :
    EndsNumber (writeEntries level entries ++ rest) := by
  cases entries <;> simp [EndsNumber, writeEntries, indentation]

/-- What is read of a table whose entry has just been read: more entries, or its closing brace. -/
def readAfterEntry? (fuel : Nat) (key : String) (value : Datum) (s : List Char) :
    Option (List (Datum × Datum) × List Char) :=
  match skipBlanks s with
  | ',' :: rest =>
    (readEntries? fuel rest).map fun (entries, rest) => ((.text key, value) :: entries, rest)
  | c :: rest => if c == closeBrace then some ([(.text key, value)], rest) else none
  | [] => none

/-- An entry is read up to what follows its value. -/
lemma readEntries?_succ (key : String) {value : Datum} (h : IsReadAt value) (level : Nat)
    {fuel : Nat} (hfuel : 2 * (writeAt (level + 1) value).length ≤ fuel) {rest : List Char}
    (hrest : EndsNumber rest) :
    readEntries? (fuel + 1)
        (writeString key ++ (": ".toList ++ (writeAt (level + 1) value ++ rest)))
      = readAfterEntry? fuel key value rest := by
  obtain ⟨pieces, hpieces, hkey⟩ := readPieces?_writeString key
    (": ".toList ++ (writeAt (level + 1) value ++ rest))
  have hcolon : skipBlanks (": ".toList ++ (writeAt (level + 1) value ++ rest))
      = ':' :: ' ' :: (writeAt (level + 1) value ++ rest) := rfl
  rw [readEntries?, skipBlanks_writeString]
  simp only [hpieces, hcolon, readValue?_congr (skipBlanks_space _), h _ _ _ hrest hfuel, hkey]
  rfl

/-- The entries of a table are read, if each value is read where it is written. -/
lemma readEntries?_write (level : Nat) (key : String) {value : Datum}
    {entries : List (Datum × Datum)} (hkeys : ∀ e ∈ entries, ∃ s, e.1 = .text s)
    (hvalue : IsReadAt value) (hvalues : ∀ e ∈ entries, IsReadAt e.2) (fuel : Nat)
    (rest : List Char)
    (hfuel : 2 * ((writeAt (level + 1) value).length + (writeEntries level entries).length) + 1
      ≤ fuel) :
    readEntries? fuel (writeString key ++ (": ".toList ++ (writeAt (level + 1) value
        ++ (writeEntries level entries ++ rest))))
      = some ((.text key, value) :: entries, rest) := by
  induction entries generalizing key value fuel with
  | nil =>
      obtain ⟨fuel, rfl⟩ := Nat.exists_eq_add_of_le' (Nat.le_trans (Nat.le_add_left 1 _) hfuel)
      rw [readEntries?_succ key hvalue level (by omega) (endsNumber_writeEntries level [] rest),
        readAfterEntry?, writeEntries, List.append_assoc, skipBlanks_indentation]
      rfl
  | cons entry entries ih =>
      obtain ⟨fuel, rfl⟩ := Nat.exists_eq_add_of_le' (Nat.le_trans (Nat.le_add_left 1 _) hfuel)
      obtain ⟨next, nextValue⟩ := entry
      obtain ⟨nextKey, rfl⟩ := hkeys _ List.mem_cons_self
      rw [writeEntries, List.length_cons, List.length_append, List.length_append] at hfuel
      have hnextValue : IsReadAt nextValue := hvalues _ List.mem_cons_self
      have hnext := ih nextKey (fun e he => hkeys e (List.mem_cons_of_mem _ he)) hnextValue
        (fun e he => hvalues e (List.mem_cons_of_mem _ he)) fuel (by omega)
      rw [readEntries?_succ key hvalue level (by omega) (endsNumber_writeEntries level _ rest),
        readAfterEntry?, writeEntries, List.cons_append, skipBlanks_cons (by decide)]
      simp only [writeAt, List.append_assoc, readEntries?_congr (skipBlanks_indentation _ _), hnext,
        Option.map_some]

/-- Every form takes some fuel, since it is not empty. -/
lemma isReadAt_of_succ {d : Datum} (hd : d.IsPlain)
    (h : ∀ level fuel rest, EndsNumber rest → 2 * (writeAt level d).length ≤ fuel + 1 →
      readValue? (fuel + 1) (writeAt level d ++ rest) = some (d, rest)) : IsReadAt d := by
  intro level fuel rest hrest hfuel
  obtain ⟨c, s, hs, -⟩ := begins_writeAt hd level
  obtain ⟨fuel, rfl⟩ : ∃ n, fuel = n + 1 := by
    rw [hs, List.length_cons] at hfuel
    exact ⟨fuel - 1, by omega⟩
  exact h level fuel rest hrest hfuel

/-- An opening bracket is read as a list, if something but its closing bracket follows. -/
lemma readValue?_list {s s' : List Char} {c : Char} (hs : skipBlanks s = c :: s') (hc : c ≠ ']')
    (fuel : Nat) :
    readValue? (fuel + 1) ('[' :: s)
      = (readItems? fuel (c :: s')).map fun (items, rest) => (.list items, rest) := by
  rw [readValue?, skipBlanks_cons (by decide)]
  simp only [hs]
  split
  · next h => exact absurd (List.cons.inj h).1 hc
  · rfl

/-- An opening brace is read as a table, if something but its closing brace follows. -/
lemma readValue?_table {s s' : List Char} {c : Char} (hs : skipBlanks s = c :: s')
    (hc : c ≠ closeBrace) (fuel : Nat) :
    readValue? (fuel + 1) (openBrace :: s)
      = (readEntries? fuel s).map fun (entries, rest) => (.table entries, rest) := by
  have hclose : (c == closeBrace) = false := beq_eq_false_iff_ne.mpr hc
  rw [readValue?, skipBlanks_cons (by decide)]
  split
  · next h => exact absurd (List.cons.inj h).1 (by decide)
  · next h => exact absurd (List.cons.inj h).1 (by decide)
  · next h => exact absurd (List.cons.inj h).1 (by decide)
  · next h => exact absurd (List.cons.inj h).1 (by decide)
  · next h => exact absurd (List.cons.inj h).1 (by decide)
  · next h =>
      obtain ⟨rfl, rfl⟩ := List.cons.inj h
      simp only [beq_self_eq_true, if_true, hs, hclose, Bool.false_eq_true, if_false]
  · contradiction

/-- A list is read, if each item is read where it is written. -/
lemma isReadAt_list {items : List Datum} (hitems : ∀ d ∈ items, d.IsPlain)
    (h : ∀ d ∈ items, IsReadAt d) : IsReadAt (.list items) := by
  refine isReadAt_of_succ (.list hitems) fun level fuel rest _ hfuel => ?_
  cases items with
  | nil => rfl
  | cons item items =>
      rw [writeAt, List.length_cons, List.length_append, List.length_append] at hfuel
      have hread := readItems?_write level h fuel rest (by omega)
      obtain ⟨c, s, hc, hblank, hclose⟩ :=
        begins_writeAt (hitems item List.mem_cons_self) (level + 1)
      have hskip : skipBlanks (indentation (level + 1) ++ writeAt (level + 1) item
          ++ writeItems level items ++ rest) = c :: (s ++ writeItems level items ++ rest) := by
        rw [List.append_assoc, List.append_assoc, skipBlanks_indentation, hc, List.cons_append,
          skipBlanks_cons hblank, List.append_assoc]
      rw [hc] at hread
      rw [writeAt, List.cons_append, readValue?_list hskip hclose]
      exact congrArg (Option.map _) hread

/-- A table is read, if each value is read where it is written. -/
lemma isReadAt_table {entries : List (Datum × Datum)} (hkeys : ∀ e ∈ entries, ∃ s, e.1 = .text s)
    (hvalues : ∀ e ∈ entries, e.2.IsPlain) (h : ∀ e ∈ entries, IsReadAt e.2) :
    IsReadAt (.table entries) := by
  refine isReadAt_of_succ (.table hkeys hvalues) fun level fuel rest _ hfuel => ?_
  cases entries with
  | nil => rfl
  | cons entry entries =>
      obtain ⟨key, value⟩ := entry
      obtain ⟨key, rfl⟩ := hkeys _ List.mem_cons_self
      rw [writeAt, List.length_cons, List.length_append, List.length_append] at hfuel
      have hvalue : IsReadAt value := h _ List.mem_cons_self
      have hread := readEntries?_write level key
        (fun e he => hkeys e (List.mem_cons_of_mem _ he)) hvalue
        (fun e he => h e (List.mem_cons_of_mem _ he)) fuel rest (by omega)
      simp only [writeAt, List.cons_append, List.append_assoc]
      rw [readValue?_table ((skipBlanks_indentation _ _).trans (skipBlanks_writeString _ _))
        (by decide), readEntries?_congr (skipBlanks_indentation _ _), hread, Option.map_some]

/-- **A datum is read where it is written.** In lists and tables each part is followed by a comma or
a new line, so that no number runs into what stands behind it. -/
theorem isReadAt_of_isPlain {d : Datum} (hd : d.IsPlain) : IsReadAt d := by
  induction hd with
  | null => exact isReadAt_of_succ .null fun _ _ _ _ _ => rfl
  | integer least greatest =>
      exact isReadAt_of_succ (.integer least greatest) fun _ fuel _ hrest _ =>
        readValue?_integer least greatest fuel hrest
  | text s => exact isReadAt_of_succ (.text s) fun _ fuel rest _ _ => readValue?_text s fuel rest
  | list hitems ih => exact isReadAt_list hitems ih
  | table hkeys hvalues ih => exact isReadAt_table hkeys hvalues ih

/-- **What is written as JSON is read again.** -/
theorem read?_write {d : Datum} (hd : d.IsPlain) : read? (write d) = some d := by
  have hread := isReadAt_of_isPlain hd 0 (2 * (writeAt 0 d).length + 2) [] (by simp [EndsNumber])
    (by omega)
  rw [List.append_nil] at hread
  simp only [read?, write, String.toList_ofList, hread]
  rfl

end Json

end ChatCommand

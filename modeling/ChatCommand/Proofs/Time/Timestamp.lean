/-
Timestamps that are written are read again.

* `Timestamp.readNumber?_append`: a run of digits is read up to its end;
* `Timestamp.numberOf_padded`, `Timestamp.readNumber?_padded`: a number with zeros before it is read
  as the number;
* `Timestamp.readDate?_writeDate`, `Timestamp.readTime?_writeTime`: so are dates and times of day;
* `Timestamp.utf8ByteSize_write_le`: timestamps are short;
* `Timestamp.read?_write`: **the timestamp of an instant with a date is read as the instant**.
-/
import Mathlib.Data.List.Basic
import Mathlib.Tactic.Common
import ChatCommand.Proofs.Data.Datum
import ChatCommand.Proofs.Time.Moving
import ChatCommand.Time.Timestamp

namespace ChatCommand

namespace Timestamp

open Text (isBlank trimStart trimStart_cons)

/-! ### Numbers -/

lemma isBlank_of_isDigit {c : Char} (h : c.isDigit = true) : isBlank c = false := by
  simp only [Char.isDigit, Bool.and_eq_true, decide_eq_true_eq, ge_iff_le, UInt32.le_iff_toNat_le]
    at h
  have hleast : 48 ≤ c.toNat := h.1
  have hgreatest : c.toNat ≤ 57 := h.2
  simp only [isBlank, Bool.or_eq_false_iff, Bool.and_eq_false_iff, decide_eq_false_iff_not,
    beq_eq_false_iff_ne]
  omega

lemma trimStart_append {digits : List Char} (hne : digits ≠ [])
    (hdigits : ∀ c ∈ digits, c.isDigit = true) (rest : List Char) :
    trimStart (digits ++ rest) = digits ++ rest := by
  obtain ⟨c, digits, rfl⟩ := List.exists_cons_of_ne_nil hne
  exact trimStart_cons (isBlank_of_isDigit (hdigits c List.mem_cons_self)) _

/-- A run of digits is read up to its end, which is where the width ends or the digits do. -/
lemma readNumber?_append {width : Nat} {digits rest : List Char} (hne : digits ≠ [])
    (hdigits : ∀ c ∈ digits, c.isDigit = true) (hlength : digits.length ≤ width)
    (hend : digits.length = width ∨ ∀ c ∈ rest.head?, c.isDigit = false) :
    readNumber? width (digits ++ rest) = some (numberOf digits, rest) := by
  have hrest : (rest.take (width - digits.length)).takeWhile Char.isDigit = [] := by
    rcases hend with hwidth | hend
    · rw [hwidth, Nat.sub_self, List.take_zero, List.takeWhile_nil]
    · cases hcount : width - digits.length with
      | zero => rw [List.take_zero, List.takeWhile_nil]
      | succ count =>
          cases rest with
          | nil => rw [List.take_nil, List.takeWhile_nil]
          | cons c rest =>
              rw [List.take_succ_cons, List.takeWhile_cons_of_neg (by simp [hend c rfl])]
  have hread : ((digits ++ rest).take width).takeWhile Char.isDigit = digits := by
    rw [List.take_append, List.take_of_length_le hlength, List.takeWhile_append_of_pos hdigits,
      hrest, List.append_nil]
  rw [readNumber?, hread]
  simp [hne]

lemma numberOf_eq (digits : List Char) : numberOf digits = Nat.ofDigitChars 10 digits 0 := by
  simp only [numberOf, Nat.ofDigitChars, Nat.mul_comm]

/-- Zeros before a number do not count. -/
lemma numberOf_padded (width n : Nat) : numberOf (padded width n) = n := by
  rw [numberOf_eq, padded, Nat.ofDigitChars_append, Nat.ofDigitChars_replicate_zero, Nat.mul_zero,
    Nat.ofDigitChars_ten_toDigits]

lemma isDigit_of_mem_padded {width n : Nat} {c : Char} (h : c ∈ padded width n) :
    c.isDigit = true := by
  rcases List.mem_append.mp h with hzero | hdigit
  · rw [(List.mem_replicate.mp hzero).2]
    rfl
  · exact Nat.isDigit_of_mem_toDigits (by omega) (by omega) hdigit

lemma padded_ne_nil (width n : Nat) : padded width n ≠ [] :=
  List.append_ne_nil_of_right_ne_nil _ Nat.toDigits_ne_nil

lemma length_padded {width n : Nat} (hwidth : 0 < width) (h : n < 10 ^ width) :
    (padded width n).length = width := by
  have hdigits := (Nat.length_toDigits_le_iff (by omega) hwidth).mpr h
  rw [padded, List.length_append, List.length_replicate, Nat.sub_add_cancel hdigits]

/-- A number is read as it was written in all the digits there is room for. -/
lemma readNumber?_padded {width n : Nat} (hwidth : 0 < width) (h : n < 10 ^ width)
    (rest : List Char) : readNumber? width (padded width n ++ rest) = some (n, rest) := by
  have hlength := length_padded hwidth h
  rw [readNumber?_append (padded_ne_nil width n) (fun _ => isDigit_of_mem_padded)
    (Nat.le_of_eq hlength) (.inl hlength), numberOf_padded]

/-- A number with no digit behind it is read as it was written. -/
lemma readLongNumber?_padded (width n : Nat) {rest : List Char}
    (hrest : ∀ c ∈ rest.head?, c.isDigit = false) :
    readLongNumber? (padded width n ++ rest) = some (n, rest) := by
  rw [readLongNumber?, readNumber?_append (padded_ne_nil width n)
    (fun _ => isDigit_of_mem_padded) (by simp) (.inr hrest), numberOf_padded]

lemma readField?_padded {n : Nat} (h : n < 100) (rest : List Char) :
    readField? (padded 2 n ++ rest) = some (n, rest) := by
  rw [readField?, trimStart_append (padded_ne_nil 2 n) (fun _ => isDigit_of_mem_padded),
    readNumber?_padded (by omega) h]

lemma readMark?_cons {mark : Char} (h : isBlank mark = false) (s : List Char) :
    readMark? mark (mark :: s) = some s := by
  rw [readMark?, trimStart_cons h]
  exact if_pos rfl

/-! ### Dates and times of day -/

/-- A year is read as it was written, with a sign if it has one. -/
lemma readYear?_writeYear (year : Int) (rest : List Char)
    (hrest : ∀ c ∈ rest.head?, c.isDigit = false) :
    readYear? (writeYear year ++ rest) = some (year, rest) := by
  rw [writeYear]
  split
  · next h =>
      have hyear : ((year.toNat : Nat) : Int) = year := by omega
      obtain ⟨c, digits, hc⟩ := List.exists_cons_of_ne_nil (padded_ne_nil 4 year.toNat)
      have hdigit : c.isDigit = true := isDigit_of_mem_padded (hc ▸ List.mem_cons_self)
      have hread : readNumber? 4 (padded 4 year.toNat ++ rest) = some (year.toNat, rest) :=
        readNumber?_padded (by omega) (by omega) rest
      rw [hc, List.cons_append] at hread ⊢
      rw [readYear?, trimStart_cons (isBlank_of_isDigit hdigit)]
      split
      · next h =>
          rw [(List.cons.inj h).1] at hdigit
          contradiction
      · next h =>
          rw [(List.cons.inj h).1] at hdigit
          contradiction
      · simp only [hread, Option.map_some, hyear]
  · next h =>
      split
      · have hyear : ((year.toNat : Nat) : Int) = year := by omega
        rw [List.cons_append, readYear?, trimStart_cons (by decide)]
        simp only [readLongNumber?_padded 4 _ hrest, Option.map_some, hyear]
      · have hyear : -((year.natAbs : Nat) : Int) = year := by omega
        rw [List.cons_append, readYear?, trimStart_cons (by decide)]
        simp only [readLongNumber?_padded 4 _ hrest, Option.map_some, hyear]

/-- A date is read as it was written. -/
lemma readDate?_writeDate {d : Date} (hd : d.Valid) (hfirst : Date.firstYear ≤ d.year)
    (hlast : d.year ≤ Date.lastYear) (rest : List Char) :
    readDate? (writeDate d ++ rest) = some (d, rest) := by
  have hmonth := hd.month.2
  have hday := Nat.le_trans hd.day_le (daysInMonth_le d.year d.month)
  have hdate : Date.ofYmd? d.year d.month d.day = some d :=
    Date.ofYmd?_eq_some_iff.mpr ⟨rfl, hd, hfirst, hlast⟩
  have hyear := readYear?_writeYear d.year
    ('-' :: (padded 2 d.month ++ '-' :: (padded 2 d.day ++ rest))) (by simp)
  have hmark : isBlank '-' = false := by decide
  simp only [readDate?, writeDate, List.append_assoc, List.cons_append, hyear]
  simp [readMark?_cons hmark, readField?_padded (n := d.month) (by omega),
    readField?_padded (n := d.day) (by omega), hdate]

lemma readFraction?_padded {width n : Nat} (hwidth : 0 < width) (hmost : width ≤ 9)
    (h : n < 10 ^ width) (rest : List Char) :
    readFraction? ('.' :: padded width n ++ 'Z' :: rest)
      = some (n * 10 ^ (9 - width), 'Z' :: rest) := by
  have hlength := length_padded hwidth h
  have htake : (padded width n ++ 'Z' :: rest).takeWhile Char.isDigit = padded width n := by
    rw [List.takeWhile_append_of_pos fun _ => isDigit_of_mem_padded,
      List.takeWhile_cons_of_neg (by decide), List.append_nil]
  have hcounted : (padded width n).take 9 = padded width n :=
    List.take_of_length_le (by omega)
  have hdrop : (padded width n ++ 'Z' :: rest).drop width = 'Z' :: rest :=
    List.drop_left' hlength
  have hne : (padded width n).isEmpty = false := List.isEmpty_eq_false_iff.mpr (padded_ne_nil _ _)
  simp only [List.cons_append, readFraction?, htake, hcounted, hlength, numberOf_padded, hdrop, hne]
  rfl

/-- A fraction of a second is read as it was written. -/
lemma readFraction?_writeFraction {nanos : Nat} (h : nanos < 1000000000) (rest : List Char) :
    readFraction? (writeFraction nanos ++ 'Z' :: rest) = some (nanos, 'Z' :: rest) := by
  rw [writeFraction]
  split
  · next hzero =>
      rw [hzero]
      rfl
  split
  · rw [readFraction?_padded (by omega) (by omega) (by omega)]
    simp only [Option.some.injEq, Prod.mk.injEq, and_true]
    omega
  split
  · rw [readFraction?_padded (by omega) (by omega) (by omega)]
    simp only [Option.some.injEq, Prod.mk.injEq, and_true]
    omega
  · rw [readFraction?_padded (by omega) (by omega) (by omega)]
    simp

/-- A time of day is read as it was written. -/
lemma readTime?_writeTime {nanosOfDay : Int} (h₀ : 0 ≤ nanosOfDay) (h₁ : nanosOfDay < nanosPerDay)
    (rest : List Char) :
    readTime? (writeTime nanosOfDay
        ++ (writeFraction (nanosOfDay % nanosPerSecond).toNat ++ 'Z' :: rest))
      = some (nanosOfDay, 'Z' :: rest) := by
  obtain ⟨seconds, hseconds⟩ : ∃ n : Nat, (n : Int) = nanosOfDay / nanosPerSecond := by
    refine ⟨(nanosOfDay / nanosPerSecond).toNat, ?_⟩
    simp only [nanosPerSecond]
    omega
  obtain ⟨nanos, hnanos⟩ : ∃ n : Nat, (n : Int) = nanosOfDay % nanosPerSecond := by
    refine ⟨(nanosOfDay % nanosPerSecond).toNat, ?_⟩
    simp only [nanosPerSecond]
    omega
  rw [writeTime, ← hseconds, ← hnanos, Int.toNat_natCast, Int.toNat_natCast]
  simp only [nanosPerDay, nanosPerSecond] at h₁ hseconds hnanos
  have hfraction : readFraction? (writeFraction nanos ++ 'Z' :: rest) = some (nanos, 'Z' :: rest) :=
    readFraction?_writeFraction (by omega) rest
  have hmark : isBlank ':' = false := by decide
  simp only [readTime?, List.append_assoc, List.cons_append]
  simp only [readMark?_cons hmark, Option.bind_eq_bind, Option.bind_some,
    readField?_padded (n := seconds / 3600) (by omega),
    readField?_padded (n := seconds / 60 % 60) (by omega),
    readField?_padded (n := seconds % 60) (by omega), hfraction]
  rw [if_pos (by simp; omega)]
  simp only [nanosPerSecond, Option.some.injEq, Prod.mk.injEq, and_true]
  omega

/-! ### Instants -/

lemma subsecond_eq (i : Instant) : i.subsecond = i.nanosOfDay % nanosPerSecond := by
  simp only [Instant.subsecond, Instant.nanosOfDay, nanosPerDay, nanosPerSecond]
  omega

/-- **The timestamp of every instant that has a date is read as the instant**. -/
theorem read?_write {i : Instant} (h : i.HasDate) : read? (write i) = some i := by
  have hdate : i.date.Valid := (Date.valid_ofDays i.day).1
  obtain ⟨hfirst, hlast⟩ := Instant.hasDate_iff.mp h
  have h₀ : 0 ≤ i.nanosOfDay := Int.emod_nonneg _ (by decide)
  have h₁ : i.nanosOfDay < nanosPerDay := Int.emod_lt_of_pos _ (by decide)
  have hinstant : Instant.ofDate i.date i.nanosOfDay = i := by
    rw [Instant.ofDate, Instant.date, Date.toDays_ofDays, Instant.ofDay_day_nanosOfDay]
  have hread := readTime?_writeTime h₀ h₁ []
  rw [read?, write, String.toList_ofList, List.append_assoc, List.append_assoc, List.cons_append,
    readDate?_writeDate hdate hfirst hlast, subsecond_eq]
  have hoffset : readOffset? (trimStart ['Z']) = some (0, []) := rfl
  have hend : trimStart [] = [] := rfl
  simp [hread, hinstant, h, hoffset, hend]

/-! ### Lengths -/

lemma length_padded_le (width : Nat) {digits n : Nat} (hdigits : 0 < digits)
    (h : n < 10 ^ digits) : (padded width n).length ≤ max width digits := by
  have hlength := (Nat.length_toDigits_le_iff (by omega) hdigits).mpr h
  rw [padded, List.length_append, List.length_replicate]
  omega

lemma length_writeDate_le {d : Date} (hd : d.Valid) (hfirst : Date.firstYear ≤ d.year)
    (hlast : d.year ≤ Date.lastYear) : (writeDate d).length ≤ 13 := by
  have hmonth := hd.month.2
  have hday := Nat.le_trans hd.day_le (daysInMonth_le d.year d.month)
  simp only [Date.firstYear, Date.lastYear] at hfirst hlast
  have hyear : (writeYear d.year).length ≤ 7 := by
    have hpadded {n : Nat} (h : n < 10 ^ 6) : (padded 4 n).length ≤ 6 :=
      length_padded_le 4 (Nat.zero_lt_succ 5) h
    rw [writeYear]
    split
    · exact Nat.le_succ_of_le (hpadded (by omega))
    split
    · exact Nat.succ_le_succ (hpadded (by omega))
    · exact Nat.succ_le_succ (hpadded (by omega))
  simp only [writeDate, List.length_append, List.length_cons]
  rw [length_padded (by omega) (by omega), length_padded (by omega) (by omega)]
  omega

lemma length_writeTime {nanosOfDay : Int} (h : nanosOfDay < nanosPerDay) :
    (writeTime nanosOfDay).length = 8 := by
  simp only [nanosPerDay, nanosPerSecond] at h
  simp only [writeTime, nanosPerSecond, List.length_append, List.length_cons]
  rw [length_padded (by omega) (by omega), length_padded (by omega) (by omega),
    length_padded (by omega) (by omega)]

lemma length_writeFraction_le {nanos : Nat} (h : nanos < 1000000000) :
    (writeFraction nanos).length ≤ 10 := by
  rw [writeFraction]
  split
  · exact Nat.zero_le 10
  split
  · rw [List.length_cons, length_padded (by omega) (by omega)]
    omega
  split
  · rw [List.length_cons, length_padded (by omega) (by omega)]
    omega
  · rw [List.length_cons, length_padded (by omega) h]

/-- Timestamps are short. -/
lemma utf8ByteSize_write_le {i : Instant} (h : i.HasDate) : (write i).utf8ByteSize ≤ 132 := by
  obtain ⟨hfirst, hlast⟩ := Instant.hasDate_iff.mp h
  have hdate := length_writeDate_le (Date.valid_ofDays i.day).1 hfirst hlast
  have htime : (writeTime i.nanosOfDay).length = 8 :=
    length_writeTime (Int.emod_lt_of_pos _ (by decide))
  have hsecond : i.subsecond < nanosPerSecond := Int.emod_lt_of_pos _ (by decide)
  have hfraction : (writeFraction i.subsecond.toNat).length ≤ 10 := by
    simp only [nanosPerSecond] at hsecond
    exact length_writeFraction_le (by omega)
  refine Nat.le_trans (Datum.utf8ByteSize_ofList_le _) ?_
  simp only [List.length_append, List.length_cons, List.length_nil, Instant.date]
  omega

end Timestamp

end ChatCommand

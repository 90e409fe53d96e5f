/-
Times of day that are read.

* `IsDigits`, `Spells`: a text that spells an integer, with a sign or without one;
* `readInteger?_eq_some_iff`, `readInt64?_eq_some_iff`: integers are read as they are spelled, if 64
  bits hold them;
* `colonFields_eq_splitOn`: fields are what stands between the colons;
* `DayTime`: hour, minute and second on the clock, as a pattern (`DayTime.pattern`) and in two
  digits each (`DayTime.written`);
* `DayTime.SpelledBy`, `DayTime.IsIn`: two or three integers with colons between them, and a text
  with nothing else but white space around them;
* `exists_spelledBy_of_parseClock?`, `DayTime.IsIn.parseClock?_eq`: what is read is the pattern of
  the time of day that is spelled, and such a text is read;
* `parseClock?_reads`: **a text is read exactly if it spells a time of day, and as that time**.
-/
import ChatCommand.Proofs.Text.Ends
import ChatCommand.Proofs.Time.Timestamp

namespace ChatCommand

namespace TimePattern

open Text (isBlank trim IsTrimmed)
open Timestamp (padded)

variable {s core field : List Char} {p : TimePattern}

/-! ### Integers -/

/-- One or more ASCII digits. -/
structure IsDigits (s : List Char) : Prop where
  ne_nil : s ≠ []
  isDigit : ∀ c ∈ s, c.isDigit = true

/-- The text spells the integer: one or more ASCII digits, of which any number may be zeros in
front, with a sign before them or without one. -/
inductive Spells : List Char → Int → Prop
  | unsigned {digits : List Char} (h : IsDigits digits) :
      Spells digits (Nat.ofDigitChars 10 digits 0)
  | plus {digits : List Char} (h : IsDigits digits) :
      Spells ('+' :: digits) (Nat.ofDigitChars 10 digits 0)
  | minus {digits : List Char} (h : IsDigits digits) :
      Spells ('-' :: digits) (-(Nat.ofDigitChars 10 digits 0 : Int))

/-- Behind another character than a digit nothing is read any more. -/
lemma foldl_digits_none (s : List Char) :
    s.foldl (fun n? c => n?.bind fun n =>
      if c.isDigit then some (n * 10 + (c.toNat - '0'.toNat)) else none) (none : Option Nat)
      = none := by
  induction s with
  | nil => rfl
  | cons c s ih => exact ih

/-- Digits behind a number are read as the number that they continue. -/
lemma foldl_digits_eq_some_iff {m n : Nat} :
    s.foldl (fun n? c => n?.bind fun n =>
        if c.isDigit then some (n * 10 + (c.toNat - '0'.toNat)) else none) (some m) = some n
      ↔ (∀ c ∈ s, c.isDigit = true) ∧ Nat.ofDigitChars 10 s m = n := by
  induction s generalizing m with
  | nil => simp
  | cons c s ih =>
      rw [List.foldl_cons, Option.bind_some, List.forall_mem_cons, Nat.ofDigitChars_cons,
        Nat.mul_comm 10 m]
      by_cases hc : c.isDigit = true
      · rw [if_pos hc, ih, and_iff_right hc]
      · rw [if_neg hc, foldl_digits_none]
        simp [hc]

lemma readDigits?_eq_some_iff {n : Nat} :
    readDigits? s = some n ↔ IsDigits s ∧ Nat.ofDigitChars 10 s 0 = n := by
  rw [readDigits?]
  split
  next hnil =>
    rw [List.isEmpty_iff] at hnil
    exact iff_of_false (Option.some_ne_none n).symm fun h => h.1.ne_nil hnil
  next hne =>
    rw [List.isEmpty_iff] at hne
    rw [foldl_digits_eq_some_iff]
    exact ⟨fun h => ⟨⟨hne, h.1⟩, h.2⟩, fun h => ⟨h.1.isDigit, h.2⟩⟩

lemma map_readDigits?_eq_some_iff {f : Nat → Int} {n : Int} :
    (readDigits? s).map f = some n ↔ IsDigits s ∧ f (Nat.ofDigitChars 10 s 0) = n := by
  simp only [Option.map_eq_some_iff, readDigits?_eq_some_iff]
  constructor
  · rintro ⟨_, ⟨h, rfl⟩, hn⟩
    exact ⟨h, hn⟩
  · rintro ⟨h, hn⟩
    exact ⟨_, ⟨h, rfl⟩, hn⟩

lemma not_isDigits_cons {c : Char} (hc : c.isDigit = false) : ¬IsDigits (c :: s) := fun h =>
  Bool.false_ne_true (hc.symm.trans (h.isDigit c List.mem_cons_self))

/-- Integers are read as they are spelled. -/
lemma readInteger?_eq_some_iff {n : Int} : readInteger? s = some n ↔ Spells s n := by
  fun_cases readInteger? s with
  | case1 digits =>
      rw [map_readDigits?_eq_some_iff]
      constructor
      · rintro ⟨h, rfl⟩
        exact .plus h
      · rintro (h | h)
        · exact absurd h (not_isDigits_cons rfl)
        · exact ⟨h, rfl⟩
  | case2 digits =>
      rw [map_readDigits?_eq_some_iff]
      constructor
      · rintro ⟨h, rfl⟩
        exact .minus h
      · rintro (h | _ | h)
        · exact absurd h (not_isDigits_cons rfl)
        · exact ⟨h, rfl⟩
  | case3 _ hplus hminus =>
      rw [map_readDigits?_eq_some_iff]
      constructor
      · rintro ⟨h, rfl⟩
        exact .unsigned h
      · rintro (h | h | h)
        · exact ⟨h, rfl⟩
        · exact absurd rfl (hplus _)
        · exact absurd rfl (hminus _)

/-- A field is read as the number of 64 bits that it spells. -/
lemma readInt64?_eq_some_iff {x : Int64} : readInt64? field = some x ↔ Spells field x.toInt := by
  simp only [readInt64?, Option.bind_eq_bind, Option.bind_eq_some_iff, readInteger?_eq_some_iff,
    Option.ite_none_right_eq_some, Option.some.injEq]
  constructor
  · rintro ⟨n, hn, ⟨hleast, hgreatest⟩, rfl⟩
    rwa [Int64.toInt_ofInt_of_le hleast (Int.lt_of_le_sub_one hgreatest)]
  · intro h
    exact ⟨x.toInt, h, ⟨x.le_toInt, Int.le_sub_one_of_lt x.toInt_lt⟩, x.ofInt_toInt⟩

-- 2 ^ 64 is not read as the 0 that is left of it in 64 bits.
example : Int64.ofInt 18446744073709551616 = 0
    ∧ readInt64? "18446744073709551616".toList = none := by
  decide +kernel

namespace Spells

variable {n : Int} (h : Spells s n)

include h

lemma eq_sign_or_isDigit {c : Char} (hc : c ∈ s) : c = '+' ∨ c = '-' ∨ c.isDigit = true := by
  cases h with
  | unsigned h => exact .inr (.inr (h.isDigit c hc))
  | plus h => exact (List.mem_cons.mp hc).imp_right fun hc => .inr (h.isDigit c hc)
  | minus h => exact .inr ((List.mem_cons.mp hc).imp_right fun hc => h.isDigit c hc)

lemma colon_notMem : ':' ∉ s := by
  intro hc
  rcases h.eq_sign_or_isDigit hc with hc | hc | hc <;> exact absurd hc (by decide)

lemma isTrimmed : IsTrimmed s := by
  refine Text.isTrimmed_of_forall fun c hc => ?_
  rcases h.eq_sign_or_isDigit hc with rfl | rfl | hc
  · decide
  · decide
  · exact Timestamp.isBlank_of_isDigit hc

end Spells

/-! ### Fields -/

lemma colonFieldsFrom_eq (field s : List Char) :
    colonFieldsFrom field s = s.splitOnPPrepend (· == ':') field := by
  induction s generalizing field with
  | nil => exact List.splitOnPPrepend_nil.symm
  | cons c s ih =>
      rw [colonFieldsFrom, List.splitOnPPrepend_cons_eq_if, ih, ih, List.splitOnPPrepend_nil_right]
      simp only [beq_iff_eq]

/-- The fields are what stands between the colons. -/
lemma colonFields_eq_splitOn (s : List Char) : colonFields s = s.splitOn ':' := by
  rw [colonFields, colonFieldsFrom_eq, List.splitOnPPrepend_nil_right, List.splitOn_eq_splitOnP]

/-- With the colons between them the fields are the text. -/
lemma intercalate_colonFields (s : List Char) : [':'].intercalate (colonFields s) = s := by
  rw [colonFields_eq_splitOn, List.intercalate_splitOn]

/-- Fields without colons are found again when colons are put between them. -/
lemma colonFields_intercalate {fields : List (List Char)} (hne : fields ≠ [])
    (h : ∀ field ∈ fields, ':' ∉ field) : colonFields ([':'].intercalate fields) = fields := by
  rw [colonFields_eq_splitOn, List.splitOn_intercalate ':' h hne]

/-! ### Times of day -/

/-- A time of day on the clock. -/
structure DayTime where
  hour : Fin 24
  minute : Fin 60
  second : Fin 60
deriving DecidableEq

namespace DayTime

/-- The pattern of a time of day. -/
def pattern (t : DayTime) : TimePattern :=
  clock (.ofNat t.hour) (.ofNat t.minute) (.ofNat t.second)

/-- Hour, minute and second in two digits each, with colons between them. -/
def written (t : DayTime) : String :=
  String.ofList (padded 2 t.hour ++ ':' :: (padded 2 t.minute ++ ':' :: padded 2 t.second))

/-- Two or three integers with colons between them are hour, minute and second, where a second that
is not given is 0. -/
inductive SpelledBy (t : DayTime) : List Char → Prop
  | minutes {h m : List Char} (hour : Spells h t.hour) (minute : Spells m t.minute)
      (second : t.second = 0) : SpelledBy t (h ++ ':' :: m)
  | seconds {h m s : List Char} (hour : Spells h t.hour) (minute : Spells m t.minute)
      (second : Spells s t.second) : SpelledBy t (h ++ ':' :: (m ++ ':' :: s))

/-- The text spells the time of day, with nothing but white space around it. -/
def IsIn (t : DayTime) (text : String) : Prop :=
  ∃ before core after, text.toList = before ++ core ++ after ∧ (∀ c ∈ before, isBlank c = true)
    ∧ (∀ c ∈ after, isBlank c = true) ∧ t.SpelledBy core

end DayTime

variable {t : DayTime} {text : String}

/-! ### The numbers on the clock -/

/-- The numbers on the clock fit into 64 bits. -/
lemma toInt_ofNat {bound : Nat} (hbound : bound ≤ 60) (n : Fin bound) :
    (Int64.ofNat n).toInt = n :=
  Int64.toInt_ofNat_of_lt (by omega)

/-- A field is read as a number on the clock if it spells that number. -/
lemma readInt64?_eq_some_ofNat_iff {bound : Nat} (hbound : bound ≤ 60) (n : Fin bound) :
    readInt64? field = some (.ofNat n) ↔ Spells field n := by
  rw [readInt64?_eq_some_iff, toInt_ofNat hbound]

/-- Three numbers are a time of day if the clock shows them. -/
lemma clock?_eq_some_iff {hour minute second : Int64} :
    clock? hour minute second = some p
      ↔ ∃ t : DayTime, hour = .ofNat t.hour ∧ minute = .ofNat t.minute ∧ second = .ofNat t.second
        ∧ t.pattern = p := by
  have hnat {x : Int64} (h : 0 ≤ x.toInt) : x = .ofNat x.toInt.toNat := by
    rw [← Int64.ofInt_eq_ofNat, Int.toNat_of_nonneg h, Int64.ofInt_toInt]
  simp only [clock?, Option.ite_none_right_eq_some, Option.some.injEq]
  constructor
  · rintro ⟨⟨hhour, hhour', hminute, hminute', hsecond, hsecond'⟩, rfl⟩
    refine ⟨⟨⟨hour.toInt.toNat, by omega⟩, ⟨minute.toInt.toNat, by omega⟩,
      ⟨second.toInt.toNat, by omega⟩⟩, hnat hhour, hnat hminute, hnat hsecond, ?_⟩
    rw [DayTime.pattern, ← hnat hhour, ← hnat hminute, ← hnat hsecond]
  · rintro ⟨t, rfl, rfl, rfl, rfl⟩
    refine ⟨?_, rfl⟩
    rw [toInt_ofNat (by omega), toInt_ofNat (by omega), toInt_ofNat (by omega)]
    omega

/-! ### Texts -/

/-- What is read is the pattern of the time of day that the fields spell. -/
lemma exists_spelledBy_of_parseClock? (hread : parseClock? text = some p) :
    ∃ t : DayTime, t.SpelledBy (trim text.toList) ∧ t.pattern = p := by
  rw [parseClock?] at hread
  generalize trim text.toList = core at hread ⊢
  have hcore := intercalate_colonFields core
  split at hread
  next h m hfields =>
    simp only [Option.bind_eq_bind, Option.bind_eq_some_iff, clock?_eq_some_iff] at hread
    obtain ⟨_, hhour, _, hminute, t, rfl, rfl, hsecond, hp⟩ := hread
    rw [readInt64?_eq_some_ofNat_iff (by omega)] at hhour hminute
    have hzero : t.second = 0 := by
      have hint := toInt_ofNat (by omega) t.second
      rw [← hsecond] at hint
      exact Fin.ext (Int.ofNat_inj.mp hint.symm)
    obtain rfl : h ++ ':' :: m = core := by simpa [hfields] using hcore
    exact ⟨t, .minutes hhour hminute hzero, hp⟩
  next h m s hfields =>
    simp only [Option.bind_eq_bind, Option.bind_eq_some_iff, clock?_eq_some_iff] at hread
    obtain ⟨_, hhour, _, hminute, _, hsecond, t, rfl, rfl, rfl, hp⟩ := hread
    rw [readInt64?_eq_some_ofNat_iff (by omega)] at hhour hminute hsecond
    obtain rfl : h ++ ':' :: (m ++ ':' :: s) = core := by simpa [hfields] using hcore
    exact ⟨t, .seconds hhour hminute hsecond, hp⟩
  next => cases hread

namespace DayTime

/-- Fields that spell a time of day are read as its numbers. -/
lemma SpelledBy.parseClock?_eq (hspelled : t.SpelledBy core) (htrim : trim text.toList = core) :
    parseClock? text = some t.pattern := by
  have hclock := clock?_eq_some_iff.mpr ⟨t, rfl, rfl, rfl, rfl⟩
  rw [parseClock?, htrim]
  cases hspelled with
  | @minutes h m hhour hminute hsecond =>
      have hcolon : ∀ field ∈ [h, m], ':' ∉ field := by
        simp [hhour.colon_notMem, hminute.colon_notMem]
      have hfields : colonFields (h ++ ':' :: m) = [h, m] := by
        simpa using colonFields_intercalate (by simp) hcolon
      rw [← readInt64?_eq_some_ofNat_iff (by omega)] at hhour hminute
      rw [hsecond] at hclock
      simpa [hfields, hhour, hminute] using hclock
  | @seconds h m s hhour hminute hsecond =>
      have hcolon : ∀ field ∈ [h, m, s], ':' ∉ field := by
        simp [hhour.colon_notMem, hminute.colon_notMem, hsecond.colon_notMem]
      have hfields : colonFields (h ++ ':' :: (m ++ ':' :: s)) = [h, m, s] := by
        simpa using colonFields_intercalate (by simp) hcolon
      rw [← readInt64?_eq_some_ofNat_iff (by omega)] at hhour hminute hsecond
      simpa [hfields, hhour, hminute, hsecond] using hclock

/-- The spelling of a time of day has no white space at its ends. -/
lemma SpelledBy.isTrimmed (h : t.SpelledBy core) : IsTrimmed core := by
  have hcolon : IsTrimmed [':'] := Text.isTrimmed_of_forall (List.forall_mem_singleton.mpr rfl)
  cases h with
  | minutes hhour hminute _ => exact hhour.isTrimmed.append (hcolon.append hminute.isTrimmed)
  | seconds hhour hminute hsecond =>
      have hrest := hminute.isTrimmed.append (hcolon.append hsecond.isTrimmed)
      exact hhour.isTrimmed.append (hcolon.append hrest)

/-- What is left of a text without the white space around it is what spells the time of day. -/
lemma isIn_iff : t.IsIn text ↔ t.SpelledBy (trim text.toList) := by
  constructor
  · rintro ⟨before, core, after, htext, hbefore, hafter, hcore⟩
    rwa [htext, hcore.isTrimmed.trim_between hbefore hafter]
  · intro h
    obtain ⟨before, after, htext, hbefore, hafter⟩ := Text.exists_eq_append_trim text.toList
    exact ⟨before, _, after, htext, hbefore, hafter, h⟩

/-- A text that spells a time of day is read as that time. -/
lemma IsIn.parseClock?_eq (h : t.IsIn text) : parseClock? text = some t.pattern :=
  (isIn_iff.mp h).parseClock?_eq rfl

/-- A number in two digits spells the number. -/
lemma spells_padded (n : Nat) : Spells (padded 2 n) n := by
  have h : Spells (padded 2 n) (Nat.ofDigitChars 10 (padded 2 n) 0) :=
    .unsigned ⟨Timestamp.padded_ne_nil 2 n, fun _ => Timestamp.isDigit_of_mem_padded⟩
  rwa [← Timestamp.numberOf_eq, Timestamp.numberOf_padded] at h

/-- A time of day that is written is spelled. -/
lemma isIn_written (t : DayTime) : t.IsIn t.written := by
  refine ⟨[], _, [], ?_, by simp, by simp,
    .seconds (spells_padded t.hour) (spells_padded t.minute) (spells_padded t.second)⟩
  rw [written, String.toList_ofList, List.nil_append, List.append_nil]

end DayTime

/-- **A text is read exactly if it spells a time of day, and as that time**: two or three integers
of any length with colons between them, if the clock shows them. The time is read as the same when
it is written in full. -/
theorem parseClock?_reads (text : String) :
    ((parseClock? text).isSome ↔ ∃ t : DayTime, t.IsIn text)
      ∧ ∀ t : DayTime, t.IsIn text →
        parseClock? text = some (clock (.ofNat t.hour) (.ofNat t.minute) (.ofNat t.second))
          ∧ parseClock? t.written = parseClock? text := by
  refine ⟨⟨fun hread => ?_, fun ⟨t, h⟩ => ?_⟩, fun t h => ⟨h.parseClock?_eq, ?_⟩⟩
  · obtain ⟨p, hp⟩ := Option.isSome_iff_exists.mp hread
    obtain ⟨t, hspelled, -⟩ := exists_spelledBy_of_parseClock? hp
    exact ⟨t, DayTime.isIn_iff.mpr hspelled⟩
  · rw [h.parseClock?_eq, Option.isSome_some]
  · rw [h.parseClock?_eq, t.isIn_written.parseClock?_eq]

/-- Signs, zeros in front and white space around the time do not count: this is five in the
afternoon. -/
theorem parseClock?_signed :
    ∃ t : DayTime, t.IsIn "\u3000+0017:-0\n" ∧ t.written = "17:00:00"
      ∧ parseClock? "\u3000+0017:-0\n" = some (clock 17 0 0)
      ∧ parseClock? "17:00:00" = some (clock 17 0 0) := by
  let t : DayTime := ⟨17, 0, 0⟩
  have hhour : Spells ['+', '0', '0', '1', '7'] t.hour := .plus ⟨by simp, by simp⟩
  have hminute : Spells ['-', '0'] t.minute := .minus ⟨by simp, by simp⟩
  have h : t.IsIn "\u3000+0017:-0\n" :=
    ⟨['\u3000'], _, ['\n'], rfl, List.forall_mem_singleton.mpr rfl,
      List.forall_mem_singleton.mpr rfl, .minutes hhour hminute rfl⟩
  have hwritten : t.written = "17:00:00" := by decide +kernel
  obtain ⟨hread, hsame⟩ := (parseClock?_reads "\u3000+0017:-0\n").2 t h
  rw [hwritten, hread] at hsame
  exact ⟨t, h, hwritten, hread, hsame⟩

end TimePattern

end ChatCommand

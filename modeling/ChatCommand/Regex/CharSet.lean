/-
Sets of characters.

* `CharSet`: a set of characters as ascending ranges of code points;
* `CharSet.contains`: membership;
* `CharSet.union`, `CharSet.complement`, `CharSet.inter`, `CharSet.diff`: sets made of others;
* `CharSet.blanks`, `CharSet.digits`: white space and the decimal digits of every script;
* `contains_union`, `contains_singleton`, `contains_blanks`: the characters of some sets.

Ranges that overlap or touch are joined, so that a set has one form.
-/
import ChatCommand.Text.Blank
import ChatCommand.Text.Digit

namespace ChatCommand

/-- A set of characters: ranges of code points, ends included, in ascending order and with gaps
between them. -/
structure CharSet where
  ranges : List (Nat × Nat)
  deriving DecidableEq

namespace CharSet

/-! ### Membership -/

def contains (s : CharSet) (c : Char) : Bool :=
  s.ranges.any fun (first, last) => first ≤ c.toNat && c.toNat ≤ last

def isEmpty (s : CharSet) : Bool := s.ranges.isEmpty

/-- The only character of a set, if it has just one. -/
def only? (s : CharSet) : Option Char :=
  match s.ranges with
  | [(first, last)] => if first = last then some (Char.ofNat first) else none
  | _ => none

/-! ### Making sets -/

/-- Puts a range among ascending ranges, joined with those that it overlaps or touches. -/
def insertRange (first last : Nat) : List (Nat × Nat) → List (Nat × Nat)
  | [] => [(first, last)]
  | (a, b) :: rest =>
    if last + 1 < a then (first, last) :: (a, b) :: rest
    else if b + 1 < first then (a, b) :: insertRange first last rest
    else insertRange (min first a) (max last b) rest

def empty : CharSet := ⟨[]⟩

/-- The characters from one to another, ends included. -/
def range (first last : Char) : CharSet := ⟨[(first.toNat, last.toNat)]⟩

def singleton (c : Char) : CharSet := range c c

def union (s t : CharSet) : CharSet :=
  ⟨t.ranges.foldl (fun ranges (first, last) => insertRange first last ranges) s.ranges⟩

/-- The characters of any of the sets. -/
def unions (sets : List CharSet) : CharSet := sets.foldl union empty

/-- The last code point. -/
def lastCode : Nat := 0x10ffff

/-- What lies between ascending ranges from a code point on. -/
def gaps (start : Nat) : List (Nat × Nat) → List (Nat × Nat)
  | [] => if start ≤ lastCode then [(start, lastCode)] else []
  | (first, last) :: rest =>
    if start < first then (start, first - 1) :: gaps (last + 1) rest else gaps (last + 1) rest

/-- All other characters. -/
def complement (s : CharSet) : CharSet := ⟨gaps 0 s.ranges⟩

/-- The characters of both sets. -/
def inter (s t : CharSet) : CharSet := (s.complement.union t.complement).complement

/-- The characters of the first set that are not in the second. -/
def diff (s t : CharSet) : CharSet := s.inter t.complement

/-! ### Classes -/

/-- White space. -/
def blanks : CharSet := ⟨[
  (0x09, 0x0d), (0x20, 0x20), (0x85, 0x85), (0xa0, 0xa0), (0x1680, 0x1680), (0x2000, 0x200a),
  (0x2028, 0x2029), (0x202f, 0x202f), (0x205f, 0x205f), (0x3000, 0x3000)]⟩

/-- The decimal digits of every script. -/
def digits : CharSet := ⟨Text.digitRanges.ranges.toList⟩

/-! ### Laws -/

/-- Whether no range ends before it begins. -/
def Proper (ranges : List (Nat × Nat)) : Prop :=
  ∀ r ∈ ranges, r.1 ≤ r.2

theorem contains_eq_true_iff {s : CharSet} {c : Char} :
    s.contains c = true ↔ ∃ r ∈ s.ranges, r.1 ≤ c.toNat ∧ c.toNat ≤ r.2 := by
  simp [contains]

theorem contains_singleton (c d : Char) : (singleton c).contains d = true ↔ d = c := by
  rw [contains_eq_true_iff]
  simp only [singleton, range, List.mem_singleton, exists_eq_left, ← Char.toNat_inj]
  omega

theorem contains_empty (c : Char) : empty.contains c = false := rfl

/-- The class of white space holds the blank characters. -/
theorem contains_blanks (c : Char) : blanks.contains c = Text.isBlank c := by
  rw [Bool.eq_iff_iff]
  simp only [contains, blanks, List.any_cons, List.any_nil, Text.isBlank, Bool.and_eq_true,
    Bool.or_eq_true, decide_eq_true_eq, beq_iff_eq, Bool.false_eq_true, or_false]
  omega

/-- A range that is put among others adds its own code points and no more. -/
theorem any_insertRange {n first last : Nat} {ranges : List (Nat × Nat)} (h : first ≤ last)
    (hp : Proper ranges) :
    ((insertRange first last ranges).any fun r => r.1 ≤ n && n ≤ r.2)
      = ((first ≤ n && n ≤ last) || ranges.any fun r => r.1 ≤ n && n ≤ r.2) := by
  induction ranges generalizing first last with
  | nil => simp [insertRange]
  | cons r rest ih =>
    obtain ⟨a, b⟩ := r
    have hab : a ≤ b := hp (a, b) List.mem_cons_self
    have hrest : Proper rest := fun r hr => hp r (List.mem_cons_of_mem _ hr)
    rw [insertRange]
    split
    · simp
    · split
      · rw [List.any_cons, ih h hrest, List.any_cons, Bool.or_left_comm]
      · rw [ih (by omega) hrest, List.any_cons, ← Bool.or_assoc]
        congr 1
        rw [Bool.eq_iff_iff]
        simp only [Bool.and_eq_true, Bool.or_eq_true, decide_eq_true_eq]
        omega

/-- A range that is put among others keeps them proper. -/
theorem proper_insertRange {first last : Nat} {ranges : List (Nat × Nat)} (h : first ≤ last)
    (hp : Proper ranges) : Proper (insertRange first last ranges) := by
  induction ranges generalizing first last with
  | nil => simpa [insertRange, Proper] using h
  | cons r rest ih =>
    obtain ⟨a, b⟩ := r
    have hab : a ≤ b := hp (a, b) List.mem_cons_self
    have hrest : Proper rest := fun r hr => hp r (List.mem_cons_of_mem _ hr)
    rw [insertRange]
    split
    · exact List.forall_mem_cons.2 ⟨h, hp⟩
    · split
      · exact List.forall_mem_cons.2 ⟨hab, ih h hrest⟩
      · exact ih (by omega) hrest

/-- The union holds the characters of either set. -/
theorem contains_union {s t : CharSet} (hs : Proper s.ranges) (ht : Proper t.ranges) (c : Char) :
    (s.union t).contains c = (s.contains c || t.contains c) := by
  obtain ⟨s⟩ := s
  obtain ⟨t⟩ := t
  simp only [union, contains] at *
  induction t generalizing s with
  | nil => simp
  | cons r rest ih =>
    have hr : r.1 ≤ r.2 := ht r List.mem_cons_self
    have hrest : Proper rest := fun r hr => ht r (List.mem_cons_of_mem _ hr)
    rw [List.foldl_cons, ih _ (proper_insertRange hr hs) hrest, any_insertRange hr hs,
      List.any_cons, Bool.or_assoc, Bool.or_left_comm]

end CharSet

end ChatCommand

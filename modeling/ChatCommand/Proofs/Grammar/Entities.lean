/-
Lists of things of one kind.

* `unionBy_nil_left`, `foldl_unionBy`: a union of several lists is all of them one after the other,
  without what is the same as something before;
* `ThingKind.Entity`, `ThingKind.identity`, `ThingKind.same`: the things of a kind, and what makes
  two of them the same;
* `Value.things`, `Value.union?_things`: the value that lists things, and the union of such values;
* `ThingKind.meant`, `ThingKind.narrow?_things`: what two lists beside each other mean;
* `ThingKind.foldl_meant_eq_nil_iff`: **lists beside each other mean nothing exactly if one of them
  is empty**.
-/
import Mathlib.Data.List.Basic
import ChatCommand.Grammar.Joining

namespace ChatCommand

/-! ### Unions of several lists -/

section Union

variable {α : Type} {same : α → α → Bool}

lemma unionBy_append (a b c : List α) :
    unionBy same a (b ++ c) = unionBy same (unionBy same a b) c :=
  List.foldl_append

/-- A union is the first list and behind it what is new in the second, without repetitions. -/
lemma unionBy_eq_append (a b : List α) :
    unionBy same a b = a ++ (b.filter fun x => !a.any (same x)).eraseDupsBy same := by
  induction b generalizing a with
  | nil => exact (List.append_nil a).symm
  | cons x b ih =>
      cases hx : a.any (same x) with
      | true =>
          have hskip : unionBy same a (x :: b) = unionBy same a b := by
            rw [unionBy, List.foldl_cons, hx]
            rfl
          rw [hskip, ih, List.filter_cons_of_neg (by simp [hx])]
      | false =>
          have htake : unionBy same a (x :: b) = unionBy same (a ++ [x]) b := by
            rw [unionBy, List.foldl_cons, hx]
            rfl
          have hnew : (b.filter fun y => !a.any (same y)).filter (fun y => same y x = false)
              = b.filter fun y => !(a ++ [x]).any (same y) := by
            rw [List.filter_filter]
            refine List.filter_congr fun y _ => ?_
            cases hsame : same y x <;> simp [hsame]
          rw [htake, ih, List.filter_cons_of_pos (by simp [hx]), List.eraseDupsBy_cons, hnew,
            List.append_assoc, List.singleton_append]

lemma unionBy_nil_left (l : List α) : unionBy same [] l = l.eraseDupsBy same := by
  have hall : (l.filter fun x => !([] : List α).any (same x)) = l :=
    List.filter_eq_self.mpr fun _ _ => rfl
  rw [unionBy_eq_append, List.nil_append, hall]

/-- Nothing is left out of a list without repetitions. -/
lemma eraseDupsBy_eq_self {l : List α} (h : l.Pairwise fun x y => same y x = false) :
    l.eraseDupsBy same = l := by
  induction l with
  | nil => rfl
  | cons x l ih =>
      obtain ⟨hx, hl⟩ := List.pairwise_cons.mp h
      have hkept : l.filter (fun y => same y x = false) = l :=
        List.filter_eq_self.mpr fun y hy => by simpa using hx y hy
      rw [List.eraseDupsBy_cons, hkept, ih hl]

/-- The union of several lists is all of them one after the other, without repetitions. -/
theorem foldl_unionBy {first : List α} (h : first.Pairwise fun x y => same y x = false)
    (others : List (List α)) :
    others.foldl (unionBy same) first = (first :: others).flatten.eraseDupsBy same := by
  have hflat : others.foldl (unionBy same) first = unionBy same first others.flatten :=
    List.foldl_flatten.symm
  rw [hflat, List.flatten_cons, ← unionBy_nil_left, unionBy_append, unionBy_nil_left first,
    eraseDupsBy_eq_self h]

end Union

namespace ThingKind

/-! ### Things -/

/-- What a kind of things lists. Countries are listed by their names. -/
def Entity : ThingKind → Type
  | player => Player
  | map => Map
  | item => Item
  | location => String

/-- What makes two things the same: the number of a player, the name of a map or an item, and the
name of a country whatever the case of its letters. -/
def identity : (kind : ThingKind) → kind.Entity → String
  | player, (p : Player) => p.uid
  | map, (m : Map) => m.name
  | item, (i : Item) => i.name
  | location, (name : String) => String.ofList (name.toList.map Char.toLower)

variable {kind : ThingKind}

/-- Whether two things are the same. -/
def same (kind : ThingKind) (x y : kind.Entity) : Bool := kind.identity x == kind.identity y

lemma sameLocation_eq : sameLocation = same .location := by
  funext a b
  rw [Bool.eq_iff_iff]
  simp [sameLocation, Text.equalsIgnoringAsciiCase, same, identity, String.ofList_inj]

/-- Several lists one after the other without repetitions, if there are none in the first. -/
lemma foldl_unionBy_same {first : List kind.Entity} (h : (first.map kind.identity).Nodup)
    (others : List (List kind.Entity)) :
    others.foldl (unionBy kind.same) first = (first :: others).flatten.eraseDupsBy kind.same :=
  foldl_unionBy ((List.pairwise_map.mp h).imp fun hne => beq_eq_false_iff_ne.mpr hne.symm) others

end ThingKind

/-! ### Values that list things -/

/-- The value that lists things of a kind. -/
def Value.things : {kind : ThingKind} → List kind.Entity → Value
  | .player => players
  | .map => maps
  | .item => items
  | .location => locations

variable {kind : ThingKind}

lemma Value.union?_things (a b : List kind.Entity) :
    (things a).union? (things b) = some (things (unionBy kind.same a b)) := by
  cases kind with
  | player | map | item => rfl
  | location => rw [← ThingKind.sameLocation_eq]; rfl

lemma Value.isSubset_things (a b : List kind.Entity) :
    (things a).isSubset (things b) = subsetBy kind.same a b := by
  cases kind with
  | player | map | item => rfl
  | location => rw [← ThingKind.sameLocation_eq]; rfl

/-! ### Lists beside each other -/

namespace ThingKind

/-- What two lists beside each other mean: the smaller if one holds the other, else both. -/
def meant (a b : List kind.Entity) : List kind.Entity :=
  if subsetBy kind.same b a then b
  else if subsetBy kind.same a b then a
  else unionBy kind.same a b

lemma narrow?_things (a b : List kind.Entity) :
    Joining.narrow? (.things a) (.things b) = some (.things (meant a b)) := by
  rw [Joining.narrow?, Value.isSubset_things, Value.isSubset_things, Value.union?_things, meant]
  split
  · rfl
  · split <;> rfl

lemma mem_of_mem_meant {a b : List kind.Entity} {x : kind.Entity} (h : x ∈ meant a b) :
    x ∈ a ∨ x ∈ b := by
  rw [meant] at h
  split at h
  · exact .inr h
  · split at h
    · exact .inl h
    · exact mem_of_mem_unionBy h

/-- An empty list is held by every other, so nothing is meant. -/
lemma meant_eq_nil_iff {a b : List kind.Entity} : meant a b = [] ↔ a = [] ∨ b = [] := by
  constructor
  · intro h
    rw [meant] at h
    split at h
    · exact .inr h
    · split at h
      · exact .inl h
      · have hprefix := prefix_unionBy kind.same a b
        rw [h] at hprefix
        exact .inl (List.prefix_nil.mp hprefix)
  · rintro (rfl | rfl)
    · cases b with
      | nil => rfl
      | cons y b => rfl
    · rfl

/-- All that several lists beside each other mean is in one of them. -/
lemma mem_of_mem_foldl_meant {first : List kind.Entity} {others : List (List kind.Entity)}
    {x : kind.Entity} (h : x ∈ others.foldl meant first) : ∃ list ∈ first :: others, x ∈ list := by
  induction others generalizing first with
  | nil => exact ⟨first, List.mem_singleton_self first, h⟩
  | cons second others ih =>
      obtain ⟨list, hlist, hx⟩ := ih h
      rcases List.mem_cons.mp hlist with rfl | hlist
      · rcases mem_of_mem_meant hx with hx | hx
        · exact ⟨first, List.mem_cons_self, hx⟩
        · exact ⟨second, List.mem_cons_of_mem _ List.mem_cons_self, hx⟩
      · exact ⟨list, List.mem_cons_of_mem _ (List.mem_cons_of_mem _ hlist), hx⟩

/-- **Lists beside each other mean nothing exactly if one of them is empty.** -/
theorem foldl_meant_eq_nil_iff {first : List kind.Entity} {others : List (List kind.Entity)} :
    others.foldl meant first = [] ↔ [] ∈ first :: others := by
  induction others generalizing first with
  | nil => rw [List.mem_singleton, List.foldl_nil, eq_comm]
  | cons second others ih =>
      rw [List.foldl_cons, ih]
      simp only [List.mem_cons, List.nil_eq, meant_eq_nil_iff, or_assoc]

end ThingKind

end ChatCommand

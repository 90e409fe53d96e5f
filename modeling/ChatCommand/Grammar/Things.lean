/-
Sets of things.

* `unionBy`, `subsetBy`: union and inclusion of lists up to a notion of sameness;
* `Value.union?`, `Value.isSubset`: the same for values, where players are the same by their
  number, maps and items by their name, countries by their name whatever its case;
* `withoutPlayers`: the players not in another list;
* `Token.meantPlayers?`: the players a token means, where the speaker means himself;
* `prefix_unionBy`, `mem_of_mem_unionBy`: a union begins with the first list and brings in nothing
  else.
-/
import ChatCommand.Token.Basic

namespace ChatCommand

/-! ### Lists up to sameness -/

/-- The elements of `a`, then those of `b` of which none before is the same. -/
def unionBy {α : Type} (same : α → α → Bool) (a b : List α) : List α :=
  b.foldl (fun all x => if all.any (same x) then all else all ++ [x]) a

/-- Whether for each element of `a` the same is in `b`. -/
def subsetBy {α : Type} (same : α → α → Bool) (a b : List α) : Bool :=
  a.all fun x => b.any (same x)

def samePlayer (a b : Player) : Bool := a.uid == b.uid

def sameMap (a b : Map) : Bool := a.name == b.name

def sameItem (a b : Item) : Bool := a.name == b.name

def sameLocation (a b : String) : Bool := Text.equalsIgnoringAsciiCase a b

/-- The players that are not among others. -/
def withoutPlayers (players excluded : List Player) : List Player :=
  players.filter fun p => !excluded.any (samePlayer p)

/-- A union holds the elements of both lists, as far as they are there, and no others. -/
theorem mem_of_mem_unionBy {α : Type} {same : α → α → Bool} {a b : List α} {x : α}
    (h : x ∈ unionBy same a b) : x ∈ a ∨ x ∈ b := by
  induction b generalizing a with
  | nil => exact .inl h
  | cons y rest ih =>
    rcases ih h with h | h
    · dsimp only at h
      split at h
      · exact .inl h
      · rcases List.mem_append.mp h with h | h
        · exact .inl h
        · exact .inr (List.mem_cons.mpr (.inl (List.mem_singleton.mp h)))
    · exact .inr (List.mem_cons_of_mem _ h)

/-- The first list is the beginning of a union. -/
theorem prefix_unionBy {α : Type} (same : α → α → Bool) (a b : List α) :
    a <+: unionBy same a b := by
  induction b generalizing a with
  | nil => exact List.prefix_refl a
  | cons y rest ih =>
    refine List.IsPrefix.trans ?_ (ih _)
    dsimp only
    split
    · exact List.prefix_refl a
    · exact List.prefix_append a [y]

theorem mem_withoutPlayers {players excluded : List Player} {p : Player} :
    p ∈ withoutPlayers players excluded ↔ p ∈ players ∧ ∀ q ∈ excluded, p.uid ≠ q.uid := by
  simp [withoutPlayers, samePlayer]

/-! ### Values -/

namespace Value

/-- The things of both values, if they are of one kind. -/
def union? : Value → Value → Option Value
  | players a, players b => some (players (unionBy samePlayer a b))
  | maps a, maps b => some (maps (unionBy sameMap a b))
  | items a, items b => some (items (unionBy sameItem a b))
  | locations a, locations b => some (locations (unionBy sameLocation a b))
  | _, _ => none

/-- Whether the values are of one kind of things and all of the first are among the second. -/
def isSubset : Value → Value → Bool
  | players a, players b => subsetBy samePlayer a b
  | maps a, maps b => subsetBy sameMap a b
  | items a, items b => subsetBy sameItem a b
  | locations a, locations b => subsetBy sameLocation a b
  | _, _ => false

end Value

/-- The players a token means. A reference to the speaker means nobody if no player speaks. -/
def Token.meantPlayers? (t : Token) (speaker : Option Player) : Option (List Player) :=
  match t.variant with
  | .thing .player => t.players?
  | .selfReflection => some speaker.toList
  | _ => none

end ChatCommand

/-
How similar names must be.

* `Thresholds`: the bars for players, maps, countries, items and commands, in any arithmetic;
* `Thresholds.standard`, `Thresholds.strict`, `Thresholds.lenient`: three choices of them;
* `Thresholds.playerBar`: the bar for a name, which rises with its length;
* `Config`: thresholds as machine numbers, and the limits of an input.
-/
import ChatCommand.Score

namespace ChatCommand

open ScoreArithmetic (ofNat)

/-- The bars that names have to reach, in percent. -/
structure Thresholds (α : Type) where
  /-- The bar for the shortest names of players. -/
  playerLower : α
  /-- The bar for the longest name of a player. -/
  playerUpper : α
  map : α
  country : α
  item : α
  method : α
  /-- The bar for commands that are called by the same words as a more similar one. -/
  alternateMethod : α

namespace Thresholds

variable {α : Type} [ScoreArithmetic α]

def standard : Thresholds α where
  playerLower := ofNat 55
  playerUpper := ofNat 70
  map := ofNat 60
  country := ofNat 60
  item := ofNat 60
  method := ofNat 60
  alternateMethod := ofNat 80

/-- Close matches only. -/
def strict : Thresholds α where
  playerLower := ofNat 70
  playerUpper := ofNat 85
  map := ofNat 75
  country := ofNat 75
  item := ofNat 75
  method := ofNat 75
  alternateMethod := ofNat 90

/-- Misspelled names too. -/
def lenient : Thresholds α where
  playerLower := ofNat 45
  playerUpper := ofNat 60
  map := ofNat 50
  country := ofNat 50
  item := ofNat 50
  method := ofNat 50
  alternateMethod := ofNat 70

/-- The bar for a name of some length where the longest has another: from the lower to the upper
bar, so that short names need less. -/
def playerBar (t : Thresholds α) (length longest : Nat) : α :=
  interpolate t.playerLower t.playerUpper (shareOf length longest)

end Thresholds

/-- How similar names must be, and how long an input may be. -/
structure Config where
  thresholds : Thresholds Float32 := .standard
  /-- The most words an input may have. -/
  wordLimit : Nat := 48
  /-- The most steps a loop may take. -/
  stepLimit : Nat := 512

end ChatCommand

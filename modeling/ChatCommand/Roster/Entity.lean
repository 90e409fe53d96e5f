/-
What a game server knows of: players, maps, items, and the commands it takes.

* `Player`, `Map`, `Item`: the entities a command can be about;
* `Player.killRatio`, `Player.carries`: what conditions on players look at;
* `Map.spokenName`: the name of a map as one says it;
* `TextCommand`: a command with the words that call it.
-/
import ChatCommand.Text.Lowercase

namespace ChatCommand

open Text (equalsIgnoringAsciiCase)

/-! ### Players -/

structure Player where
  uid : String
  name : String
  /-- The name without clan tags, empty if it is not known. -/
  strippedName : String := ""
  ping : UInt32 := 0
  score : Int32 := 0
  kills : UInt32 := 0
  deaths : UInt32 := 0
  countryName : String := ""
  countryCode : String := ""
  /-- The names of the items the player carries. -/
  inventory : List String := []
deriving DecidableEq

namespace Player

/-- Kills for each death. Without a death, the kills. -/
def killRatio (p : Player) : Float :=
  if p.deaths = 0 then Float.ofNat p.kills.toNat
  else Float.ofNat p.kills.toNat / Float.ofNat p.deaths.toNat

/-- Whether the player carries an item of this name, whatever the case of its letters. -/
def carries (p : Player) (itemName : String) : Bool :=
  p.inventory.any (equalsIgnoringAsciiCase · itemName)

/-- The length of the name in characters. -/
def nameLength (p : Player) : Nat := p.name.length

end Player

/-! ### Maps and items -/

structure Map where
  name : String
  /-- The name that players see. -/
  friendlyName : String := ""
  gameMode : String := ""
deriving DecidableEq

/-- The name with spaces for underscores and hyphens. -/
def Map.spokenName (m : Map) : String :=
  String.ofList (m.name.toList.map fun c => if c = '_' ∨ c = '-' then ' ' else c)

structure Item where
  name : String
  /-- The name that players see. -/
  friendlyName : String := ""
  tags : List String := []
deriving DecidableEq

/-! ### Commands -/

/-- A command and the words that call it. -/
structure TextCommand where
  canonicalName : String
  aliases : List String := []
  /-- Commands with a higher priority come first among those that may be meant. -/
  priority : Int32 := 0
deriving DecidableEq

/-- Whether these words call the command, whatever the case of their letters. -/
def TextCommand.hasAlias (c : TextCommand) (words : String) : Bool :=
  c.aliases.any (equalsIgnoringAsciiCase · words)

end ChatCommand

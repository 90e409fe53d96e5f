/-
Recognizing names.

* `Names.players`, `Names.maps`, `Names.countries`, `Names.items`, `Names.methods`: the tokens that
  the state gives a span;
* `Names.recognizer`: all of them, in the stage of objects.
-/
import ChatCommand.Recognition.Config
import ChatCommand.Sentence.Context
import ChatCommand.Similarity.Text

namespace ChatCommand

namespace Names

variable {α : Type} [Bar α] (thresholds : Thresholds α) (state : State) (text : String)

/-! ### Similarity of names -/

/-- The similarity of a span with the name of a player, with or without clan tags. -/
def playerSimilarity (p : Player) : Score :=
  let stripped := if p.strippedName.isEmpty then p.name else p.strippedName
  max (singularSimilarity text p.name) (singularSimilarity text stripped)

/-- The similarity of a span with the spoken name, the friendly name or the name of a map. -/
def mapSimilarity (m : Map) : Score :=
  max (max (similarity text m.spokenName) (similarity text m.friendlyName))
    (similarity text m.name)

/-- The similarity of a span with the name, the friendly name or a tag of an item. -/
def itemSimilarity (i : Item) : Score :=
  (i.tags.map (singularSimilarity text)).foldl max
    (max (singularSimilarity text i.name) (singularSimilarity text i.friendlyName))

/-- The similarity of a span with the words that call a command. -/
def methodSimilarity (c : TextCommand) : Score :=
  Score.greatest (c.aliases.map (partialSimilarity text))

/-! ### Tokens -/

/-- A token for the player, if the name is similar enough for its length. -/
def player? (p : Player) : Option Token :=
  let score := playerSimilarity text p
  if Bar.reachedBy (thresholds.playerBar p.nameLength state.longestName) score then
    some { text, name := some p.name, variant := .thing .player, value := some (.players [p])
           similarity := score }
  else none

/-- A token for every player whose name is similar enough. -/
def players : List Token :=
  state.players.filterMap (player? thresholds state text)

def map? (m : Map) : Option Token :=
  let score := mapSimilarity text m
  if Bar.reachedBy thresholds.map score then
    some { text, name := some m.name, variant := .thing .map, value := some (.maps [m])
           similarity := score }
  else none

/-- A token for every map one of whose names is similar enough. -/
def maps : List Token :=
  state.maps.filterMap (map? thresholds text)

def location? (country : String) : Option Token :=
  let score := similarity text country
  if Bar.reachedBy thresholds.country score then
    some { text, name := some country, variant := .thing .location
           value := some (.locations [country]), similarity := score }
  else none

/-- A token for every country a player comes from whose name is similar enough. -/
def countries : List Token :=
  state.countries.filterMap (location? thresholds text)

/-- The items that are similar enough. -/
def similarItems : List Item :=
  state.items.filter fun i => Bar.reachedBy thresholds.item (itemSimilarity text i)

/-- One token for all items that are similar enough, as similar as the best of them. -/
def items : Option Token :=
  let found := similarItems thresholds state text
  if found.isEmpty then none
  else
    some { text, variant := .thing .item, value := some (.items found)
           similarity := Score.greatest (found.map (itemSimilarity text)) }

def method? (c : TextCommand) : Option Token :=
  let score := methodSimilarity text c
  if Bar.reachedBy thresholds.method score then
    some { text, name := some c.canonicalName, variant := .method
           value := some (.command c.canonicalName), similarity := score }
  else none

/-- A token for every command that is called by similar words. -/
def methods : List Token :=
  state.commands.filterMap (method? thresholds text)

/-! ### The recognizer -/

/-- Players, maps, countries, items and commands, in the stage of objects. -/
def recognizer : Recognizer := fun state stage text =>
  if stage = .object then
    players thresholds state text ++ maps thresholds state text ++ countries thresholds state text
      ++ (items thresholds state text).toList ++ methods thresholds state text
  else []

end Names

end ChatCommand

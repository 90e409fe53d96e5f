/-
A small server to try commands on.

* `State.demo`: eight players from four countries, five maps, four items and seven commands.
-/
import ChatCommand.Roster.State

namespace ChatCommand

namespace Demo

/-- Noon on 1 January 2024. -/
def now : Instant := .ofDate ⟨2024, 1, 1⟩ (43200 * nanosPerSecond)

def phogue : Player where
  uid := "EA_0001"
  name := "Phogue"
  strippedName := "Phogue"
  ping := 45
  score := 1200
  kills := 24
  deaths := 6
  countryName := "Australia"
  countryCode := "au"
  inventory := ["m40"]

def players : List Player := [
  phogue,
  { uid := "EA_0002", name := "[DB]Zaeed", strippedName := "Zaeed", ping := 120, score := 800
    kills := 12, deaths := 10, countryName := "Canada", countryCode := "ca"
    inventory := ["m1014"] },
  { uid := "EA_0003", name := "Imisnew2", strippedName := "Imisnew2", ping := 210, score := 150
    kills := 2, deaths := 15, countryName := "Australia", countryCode := "au"
    inventory := ["m95"] },
  { uid := "EA_0004", name := "Ike", strippedName := "Ike", ping := 60, score := 500
    kills := 8, deaths := 8, countryName := "Germany", countryCode := "de"
    inventory := ["m40"] },
  { uid := "EA_0005", name := "Morpheus", strippedName := "Morpheus", ping := 95, score := 950
    kills := 15, deaths := 5, countryName := "United States", countryCode := "us"
    inventory := ["m1014"] },
  { uid := "EA_0006", name := "Sniperwolf", strippedName := "Sniperwolf", ping := 30, score := 1500
    kills := 30, deaths := 3, countryName := "Germany", countryCode := "de"
    inventory := ["m95"] },
  { uid := "EA_0007", name := "Dracula", strippedName := "Dracula", ping := 300, score := 20
    kills := 0, deaths := 12, countryName := "Canada", countryCode := "ca"
    inventory := [] },
  { uid := "EA_0008", name := "Wraith", strippedName := "Wraith", ping := 75, score := 640
    kills := 9, deaths := 9, countryName := "United States", countryCode := "us"
    inventory := [] }]

def maps : List Map := [
  { name := "port_valdez", friendlyName := "Port Valdez", gameMode := "conquest" },
  { name := "valparaiso", friendlyName := "Valparaiso", gameMode := "rush" },
  { name := "arica_harbor", friendlyName := "Arica Harbor", gameMode := "conquest" },
  { name := "white_pass", friendlyName := "White Pass", gameMode := "squad deathmatch" },
  { name := "laguna_presa", friendlyName := "Laguna Presa", gameMode := "rush" }]

def items : List Item := [
  { name := "m40", friendlyName := "M40A5", tags := ["sniper", "rifle"] },
  { name := "m95", friendlyName := "M95", tags := ["sniper", "rifle"] },
  { name := "m1014", friendlyName := "M1014", tags := ["shotgun"] },
  { name := "c4", friendlyName := "C4 Explosive", tags := ["explosive"] }]

def commands : List TextCommand := [
  { canonicalName := "kick", aliases := ["kick", "boot"], priority := 10 },
  { canonicalName := "ban", aliases := ["ban"], priority := 20 },
  { canonicalName := "kill", aliases := ["kill", "slay"], priority := 5 },
  { canonicalName := "move", aliases := ["move", "switch team"], priority := 1 },
  { canonicalName := "change_map", aliases := ["change map", "next map"], priority := 15 },
  { canonicalName := "yell", aliases := ["yell", "say"] },
  { canonicalName := "calculate", aliases := ["calculate", "calc"] }]

end Demo

/-- A small server at noon on 1 January 2024. -/
def State.demo : State where
  speaker := some Demo.phogue
  players := Demo.players
  maps := Demo.maps
  items := Demo.items
  commands := Demo.commands
  now := Demo.now

end ChatCommand

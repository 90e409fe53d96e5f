/-
Snapshots: the state of a server as stored data.

* `State.toDatum`, `State.ofDatum?`: the state as a record, and reading one;
* `SnapshotFormat`: JSON or MessagePack, chosen by the ending of a path;
* `State.toBytes`, `State.ofBytes?`: the state in a format.
-/
import ChatCommand.Data.Json
import ChatCommand.Data.MessagePack
import ChatCommand.Roster.State
import ChatCommand.Time.Timestamp

namespace ChatCommand

/-! ### Records -/

/-- The fields of a record as a table. -/
def Datum.record (fields : Fields) : Datum :=
  .table (fields.map fun (name, value) => (.text name, value))

def Datum.texts (items : List String) : Datum :=
  .list (items.map .text)

namespace Player

def fieldNames : List String :=
  ["uid", "name", "name_stripped", "ping", "score", "kills", "deaths", "country_name",
    "country_code", "inventory"]

def toDatum (p : Player) : Datum :=
  .record [("uid", .text p.uid), ("name", .text p.name), ("name_stripped", .text p.strippedName),
    ("ping", .integer p.ping.toNat), ("score", .integer p.score.toInt),
    ("kills", .integer p.kills.toNat), ("deaths", .integer p.deaths.toNat),
    ("country_name", .text p.countryName), ("country_code", .text p.countryCode),
    ("inventory", .texts p.inventory)]

def ofDatum? (d : Datum) : Option Player := do
  let fields ← d.fields? fieldNames
  some {
    uid := ← fields.required? "uid" Datum.text?
    name := ← fields.required? "name" Datum.text?
    strippedName := ← fields.optional? "name_stripped" "" Datum.text?
    ping := ← fields.optional? "ping" 0 Datum.uint32?
    score := ← fields.optional? "score" 0 Datum.int32?
    kills := ← fields.optional? "kills" 0 Datum.uint32?
    deaths := ← fields.optional? "deaths" 0 Datum.uint32?
    countryName := ← fields.optional? "country_name" "" Datum.text?
    countryCode := ← fields.optional? "country_code" "" Datum.text?
    inventory := ← fields.optional? "inventory" [] (Datum.listOf? Datum.text?) }

end Player

namespace Map

def fieldNames : List String := ["name", "friendly_name", "game_mode"]

def toDatum (m : Map) : Datum :=
  .record [("name", .text m.name), ("friendly_name", .text m.friendlyName),
    ("game_mode", .text m.gameMode)]

def ofDatum? (d : Datum) : Option Map := do
  let fields ← d.fields? fieldNames
  some {
    name := ← fields.required? "name" Datum.text?
    friendlyName := ← fields.optional? "friendly_name" "" Datum.text?
    gameMode := ← fields.optional? "game_mode" "" Datum.text? }

end Map

namespace Item

def fieldNames : List String := ["name", "friendly_name", "tags"]

def toDatum (i : Item) : Datum :=
  .record [("name", .text i.name), ("friendly_name", .text i.friendlyName),
    ("tags", .texts i.tags)]

def ofDatum? (d : Datum) : Option Item := do
  let fields ← d.fields? fieldNames
  some {
    name := ← fields.required? "name" Datum.text?
    friendlyName := ← fields.optional? "friendly_name" "" Datum.text?
    tags := ← fields.optional? "tags" [] (Datum.listOf? Datum.text?) }

end Item

namespace TextCommand

def fieldNames : List String := ["canonical_name", "aliases", "priority"]

def toDatum (c : TextCommand) : Datum :=
  .record [("canonical_name", .text c.canonicalName), ("aliases", .texts c.aliases),
    ("priority", .integer c.priority.toInt)]

def ofDatum? (d : Datum) : Option TextCommand := do
  let fields ← d.fields? fieldNames
  some {
    canonicalName := ← fields.required? "canonical_name" Datum.text?
    aliases := ← fields.required? "aliases" (Datum.listOf? Datum.text?)
    priority := ← fields.optional? "priority" 0 Datum.int32? }

end TextCommand

namespace State

def fieldNames : List String := ["speaker", "players", "maps", "items", "commands", "now"]

def toDatum (s : State) : Datum :=
  .record [
    ("speaker", match s.speaker with | none => .null | some p => p.toDatum),
    ("players", .list (s.players.map Player.toDatum)),
    ("maps", .list (s.maps.map Map.toDatum)),
    ("items", .list (s.items.map Item.toDatum)),
    ("commands", .list (s.commands.map TextCommand.toDatum)),
    ("now", .text (Timestamp.write s.now))]

/-- Reads a state. Without a time of its own it is one of `clock`. -/
def ofDatum? (clock : Instant) (d : Datum) : Option State := do
  let fields ← d.fields? fieldNames
  some {
    speaker := ← fields.optional? "speaker" none (Datum.orNull? Player.ofDatum?)
    players := ← fields.optional? "players" [] (Datum.listOf? Player.ofDatum?)
    maps := ← fields.optional? "maps" [] (Datum.listOf? Map.ofDatum?)
    items := ← fields.optional? "items" [] (Datum.listOf? Item.ofDatum?)
    commands := ← fields.optional? "commands" [] (Datum.listOf? TextCommand.ofDatum?)
    now := ← fields.optional? "now" clock fun d => d.plainText?.bind Timestamp.read? }

end State

/-! ### Formats -/

inductive SnapshotFormat where
  | json | messagePack
deriving DecidableEq

/-- The parts of a path between slashes, the first of which began with `part` in reverse. -/
def pathPartsFrom (part : List Char) : List Char → List (List Char)
  | [] => [part.reverse]
  | c :: rest =>
    if c = '/' then part.reverse :: pathPartsFrom [] rest else pathPartsFrom (c :: part) rest

/-- The parts of a path between slashes that lead somewhere. -/
def pathParts (path : String) : List (List Char) :=
  (pathPartsFrom [] path.toList).filter fun part => !(part = [] || part = ['.'])

/-- The ending of a file name: what follows its last point, if something stands before that
point. -/
def fileEnding? (path : String) : Option String :=
  match (pathParts path).getLast? with
  | none => none
  | some name =>
    let ending := (name.reverse.takeWhile (· != '.')).reverse
    if ending.length + 1 < name.length ∧ name ≠ ['.', '.'] then some (String.ofList ending)
    else none

/-- JSON for paths that end in `.json`, in any case, else MessagePack. -/
def SnapshotFormat.ofPath (path : String) : SnapshotFormat :=
  match fileEnding? path with
  | some ending => if Text.equalsIgnoringAsciiCase ending "json" then .json else .messagePack
  | none => .messagePack

namespace State

def toBytes (s : State) : SnapshotFormat → List UInt8
  | .json => Datum.utf8Bytes (Json.write s.toDatum)
  | .messagePack => MessagePack.write s.toDatum

/-- The datum of some bytes in a format. -/
def datumOfBytes? (bytes : List UInt8) : SnapshotFormat → Option Datum
  | .json => (String.fromUTF8? ⟨bytes.toArray⟩).bind Json.read?
  | .messagePack => MessagePack.read? bytes

/-- Reads a state in a format. Without a time of its own it is one of `clock`. -/
def ofBytes? (clock : Instant) (bytes : List UInt8) (format : SnapshotFormat) :
    Except Error State :=
  match (datumOfBytes? bytes format).bind (ofDatum? clock) with
  | some s => .ok s
  | none => .error { fault := .serialization "not a snapshot" }

end State

end ChatCommand

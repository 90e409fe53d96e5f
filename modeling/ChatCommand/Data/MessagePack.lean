/-
MessagePack.

* `MessagePack.read?`: the datum at the start of some bytes, in any of the forms of the format;
* `MessagePack.ReadByMark`, `MessagePack.NestedByMark`: what the mark of some bytes tells of them;
* `MessagePack.write`: a datum in the smallest form of each part.
-/
import ChatCommand.Data.Datum

namespace ChatCommand

namespace MessagePack

/-! ### Reading -/

/-- Splits off a number of bytes, if there are so many. -/
def take? (count : Nat) (s : List UInt8) : Option (List UInt8 × List UInt8) :=
  let taken := s.take count
  if taken.length = count then some (taken, s.drop count) else none

/-- The number of some bytes, the greatest place first. -/
def bigEndian (bytes : List UInt8) : Nat :=
  bytes.foldl (fun n b => n * 256 + b.toNat) 0

/-- Reads a number without a sign of some width in bytes. -/
def readNatural? (width : Nat) (s : List UInt8) : Option (Nat × List UInt8) :=
  (take? width s).map fun (bytes, rest) => (bigEndian bytes, rest)

/-- Reads a number of some width in bytes, the upper half of which stands for the numbers below
zero. -/
def readSigned? (width : Nat) (s : List UInt8) : Option (Datum × List UInt8) :=
  (readNatural? width s).map fun (n, rest) =>
    (if n < 1 <<< (8 * width - 1) then .signed n else .integer (n - (1 <<< (8 * width) : Nat)), rest)

/-- Reads a text of some length in bytes. Bytes that spell no text stay bytes. -/
def readText? (length : Nat) (s : List UInt8) : Option (Datum × List UInt8) :=
  (take? length s).map fun (bytes, rest) =>
    match String.fromUTF8? ⟨bytes.toArray⟩ with
    | some text => (.text text, rest)
    | none => (.bytes bytes, rest)

def readBytes? (length : Nat) (s : List UInt8) : Option (Datum × List UInt8) :=
  (take? length s).map fun (bytes, rest) => (.bytes bytes, rest)

/-- Reads data of a foreign kind: the number of the kind and some bytes. -/
def readForeign? (length : Nat) (s : List UInt8) : Option (Datum × List UInt8) :=
  (take? (length + 1) s).map fun (_, rest) => (.foreign, rest)

/-- Reads a number of things one after the other. -/
def readMany? {α : Type} (readOne? : List UInt8 → Option (α × List UInt8)) :
    Nat → List UInt8 → Option (List α × List UInt8)
  | 0, s => some ([], s)
  | count + 1, s => do
    let (one, s) ← readOne? s
    let (more, s) ← readMany? readOne? count s
    some (one :: more, s)

def readList? (readOne? : List UInt8 → Option (Datum × List UInt8)) (count : Nat)
    (s : List UInt8) : Option (Datum × List UInt8) :=
  (readMany? readOne? count s).map fun (items, rest) => (.list items, rest)

def readTable? (readOne? : List UInt8 → Option (Datum × List UInt8)) (count : Nat)
    (s : List UInt8) : Option (Datum × List UInt8) :=
  (readMany? (fun s => do
    let (key, s) ← readOne? s
    let (value, s) ← readOne? s
    some ((key, value), s)) count s).map fun (entries, rest) => (.table entries, rest)

/-- Reads a length of some width in bytes and what it measures. -/
def withLength? (width : Nat) (readSized? : Nat → List UInt8 → Option (Datum × List UInt8))
    (s : List UInt8) : Option (Datum × List UInt8) :=
  (readNatural? width s).bind fun (length, rest) => readSized? length rest

/-- Reads a datum with lists, tables and foreign data nested less than `depth` deep. -/
def readValue? (depth : Nat) (s : List UInt8) : Option (Datum × List UInt8) :=
  match s with
  | [] => none
  | first :: rest =>
    let mark := first.toNat
    let items : Nat → List UInt8 → Option (Datum × List UInt8) :=
      match depth with
      | 0 | 1 => fun _ _ => none
      | depth + 1 => readList? (readValue? depth)
    let entries : Nat → List UInt8 → Option (Datum × List UInt8) :=
      match depth with
      | 0 | 1 => fun _ _ => none
      | depth + 1 => readTable? (readValue? depth)
    let unsigned (width : Nat) :=
      (readNatural? width rest).map fun (n, rest) => (Datum.integer n, rest)
    let foreign : Nat → List UInt8 → Option (Datum × List UInt8) :=
      if depth ≤ 1 then fun _ _ => none else readForeign?
    if mark < 0x80 then some (.integer mark, rest)
    else if mark < 0x90 then entries (mark - 0x80) rest
    else if mark < 0xa0 then items (mark - 0x90) rest
    else if mark < 0xc0 then readText? (mark - 0xa0) rest
    else if 0xe0 ≤ mark then some (.integer ((mark : Int) - 0x100), rest)
    else
      match mark with
      | 0xc0 => some (.null, rest)
      | 0xc2 => some (.truth false, rest)
      | 0xc3 => some (.truth true, rest)
      | 0xc4 => withLength? 1 readBytes? rest
      | 0xc5 => withLength? 2 readBytes? rest
      | 0xc6 => withLength? 4 readBytes? rest
      | 0xc7 => withLength? 1 foreign rest
      | 0xc8 => withLength? 2 foreign rest
      | 0xc9 => withLength? 4 foreign rest
      | 0xca => (take? 4 rest).map fun (_, rest) => (.foreign, rest)
      | 0xcb =>
        (readNatural? 8 rest).map fun (n, rest) => (.real (Float.ofBits n.toUInt64), rest)
      | 0xcc => unsigned 1
      | 0xcd => unsigned 2
      | 0xce => unsigned 4
      | 0xcf => unsigned 8
      | 0xd0 => readSigned? 1 rest
      | 0xd1 => readSigned? 2 rest
      | 0xd2 => readSigned? 4 rest
      | 0xd3 => readSigned? 8 rest
      | 0xd4 => foreign 1 rest
      | 0xd5 => foreign 2 rest
      | 0xd6 => foreign 4 rest
      | 0xd7 => foreign 8 rest
      | 0xd8 => foreign 16 rest
      | 0xd9 => withLength? 1 readText? rest
      | 0xda => withLength? 2 readText? rest
      | 0xdb => withLength? 4 readText? rest
      | 0xdc => withLength? 2 items rest
      | 0xdd => withLength? 4 items rest
      | 0xde => withLength? 2 entries rest
      | 0xdf => withLength? 4 entries rest
      | _ => none

/-- How deep lists, tables and foreign data may be nested, plus one. -/
def depthLimit : Nat := 1024

/-- The datum at the start of some bytes. What follows it is not looked at. -/
def read? (bytes : List UInt8) : Option Datum :=
  (readValue? depthLimit bytes).map Prod.fst

/-! ### Marks -/

/-- What bytes are read as by their mark, if they are neither a list nor a table. -/
structure ReadByMark (depth : Nat) (s : List UInt8) : Prop where
  null : readValue? depth (0xc0 :: s) = some (.null, s)
  small : ∀ {mark : UInt8}, mark.toNat < 0x80 →
    readValue? depth (mark :: s) = some (.integer mark.toNat, s)
  smallNegative : ∀ {mark : UInt8}, 0xe0 ≤ mark.toNat →
    readValue? depth (mark :: s) = some (.integer ((mark.toNat : Int) - 0x100), s)
  unsigned : ∀ {mark : UInt8} {width : Nat},
    (mark, width) ∈ [(0xcc, 1), (0xcd, 2), (0xce, 4), (0xcf, 8)] →
      readValue? depth (mark :: s) = (readNatural? width s).map fun (n, rest) => (.integer n, rest)
  signed : ∀ {mark : UInt8} {width : Nat},
    (mark, width) ∈ [(0xd0, 1), (0xd1, 2), (0xd2, 4), (0xd3, 8)] →
      readValue? depth (mark :: s) = readSigned? width s
  shortText : ∀ {mark : UInt8}, 0xa0 ≤ mark.toNat → mark.toNat < 0xc0 →
    readValue? depth (mark :: s) = readText? (mark.toNat - 0xa0) s
  text : ∀ {mark : UInt8} {width : Nat}, (mark, width) ∈ [(0xd9, 1), (0xda, 2), (0xdb, 4)] →
    readValue? depth (mark :: s) = withLength? width readText? s

theorem readByMark (depth : Nat) (s : List UInt8) : ReadByMark depth s where
  null := by
    rw [readValue?.eq_def]
    rfl
  small h := by
    rw [readValue?.eq_def]
    exact if_pos h
  smallNegative h := by
    rw [readValue?.eq_def]
    dsimp only
    rw [if_neg (by omega), if_neg (by omega), if_neg (by omega), if_neg (by omega), if_pos h]
  unsigned h := by
    simp only [List.mem_cons, List.not_mem_nil, or_false, Prod.mk.injEq] at h
    rcases h with ⟨rfl, rfl⟩ | ⟨rfl, rfl⟩ | ⟨rfl, rfl⟩ | ⟨rfl, rfl⟩ <;>
      (rw [readValue?.eq_def]; rfl)
  signed h := by
    simp only [List.mem_cons, List.not_mem_nil, or_false, Prod.mk.injEq] at h
    rcases h with ⟨rfl, rfl⟩ | ⟨rfl, rfl⟩ | ⟨rfl, rfl⟩ | ⟨rfl, rfl⟩ <;>
      (rw [readValue?.eq_def]; rfl)
  shortText hleast hless := by
    rw [readValue?.eq_def]
    dsimp only
    rw [if_neg (by omega), if_neg (by omega), if_neg (by omega), if_pos hless]
  text h := by
    simp only [List.mem_cons, List.not_mem_nil, or_false, Prod.mk.injEq] at h
    rcases h with ⟨rfl, rfl⟩ | ⟨rfl, rfl⟩ | ⟨rfl, rfl⟩ <;> (rw [readValue?.eq_def]; rfl)

/-- What lists and tables are read as by their mark, with the reader of what they hold. -/
structure NestedByMark (readOne? : List UInt8 → Option (Datum × List UInt8)) (depth : Nat)
    (s : List UInt8) : Prop where
  shortList : ∀ {mark : UInt8}, 0x90 ≤ mark.toNat → mark.toNat < 0xa0 →
    readValue? depth (mark :: s) = readList? readOne? (mark.toNat - 0x90) s
  list : ∀ mark width, (mark, width) ∈ [((0xdc : UInt8), 2), (0xdd, 4)] →
    readValue? depth (mark :: s) = withLength? width (readList? readOne?) s
  shortTable : ∀ {mark : UInt8}, 0x80 ≤ mark.toNat → mark.toNat < 0x90 →
    readValue? depth (mark :: s) = readTable? readOne? (mark.toNat - 0x80) s
  table : ∀ mark width, (mark, width) ∈ [((0xde : UInt8), 2), (0xdf, 4)] →
    readValue? depth (mark :: s) = withLength? width (readTable? readOne?) s

theorem nestedByMark (depth : Nat) (s : List UInt8) :
    NestedByMark (readValue? (depth + 1)) (depth + 2) s where
  shortList hleast hless := by
    rw [readValue?.eq_def]
    dsimp only
    rw [if_neg (by omega), if_neg (by omega), if_pos hless]
    rfl
  list mark width h := by
    simp only [List.mem_cons, List.not_mem_nil, or_false, Prod.mk.injEq] at h
    rcases h with ⟨rfl, rfl⟩ | ⟨rfl, rfl⟩ <;> (rw [readValue?.eq_def]; rfl)
  shortTable hleast hless := by
    rw [readValue?.eq_def]
    dsimp only
    rw [if_neg (by omega), if_pos hless]
    rfl
  table mark width h := by
    simp only [List.mem_cons, List.not_mem_nil, or_false, Prod.mk.injEq] at h
    rcases h with ⟨rfl, rfl⟩ | ⟨rfl, rfl⟩ <;> (rw [readValue?.eq_def]; rfl)

/-! ### Writing -/

/-- A number in so many bytes, the greatest place first. -/
def writeBigEndian : Nat → Nat → List UInt8
  | 0, _ => []
  | width + 1, n => writeBigEndian width (n / 256) ++ [(n % 256).toUInt8]

/-- A mark, then a number of some width in bytes. -/
def marked (mark : UInt8) (width n : Nat) : List UInt8 :=
  mark :: writeBigEndian width n

def writeInteger (n : Int) : List UInt8 :=
  match n with
  | .ofNat n =>
    if n < 0x80 then [n.toUInt8]
    else if n < 0x100 then marked 0xcc 1 n
    else if n < 0x10000 then marked 0xcd 2 n
    else if n < 0x100000000 then marked 0xce 4 n
    else marked 0xcf 8 n
  | .negSucc m =>
    if m < 0x20 then [(0xff - m).toUInt8]
    else if m < 0x80 then marked 0xd0 1 (0xff - m)
    else if m < 0x8000 then marked 0xd1 2 (0xffff - m)
    else if m < 0x80000000 then marked 0xd2 4 (0xffffffff - m)
    else marked 0xd3 8 (0xffffffffffffffff - m)

def writeText (s : String) : List UInt8 :=
  let bytes := Datum.utf8Bytes s
  let length := bytes.length
  let head :=
    if length < 0x20 then [(0xa0 + length).toUInt8]
    else if length < 0x100 then marked 0xd9 1 length
    else if length < 0x10000 then marked 0xda 2 length
    else marked 0xdb 4 length
  head ++ bytes

/-- The head of a list or table: its length in the smallest of three forms. -/
def writeHead (small : Nat) (mark16 mark32 : UInt8) (length : Nat) : List UInt8 :=
  if length < 0x10 then [(small + length).toUInt8]
  else if length < 0x10000 then marked mark16 2 length
  else marked mark32 4 length

mutual

/-- The datum in the smallest form of each part. Only nothing, truth values, integers, texts, lists
and tables are written, all else as nothing. -/
def write : Datum → List UInt8
  | .truth b => [if b then 0xc3 else 0xc2]
  | .integer n => writeInteger n
  | .signed n => writeInteger n
  | .text s => writeText s
  | .list items => writeHead 0x90 0xdc 0xdd items.length ++ writeItems items
  | .table entries => writeHead 0x80 0xde 0xdf entries.length ++ writeEntries entries
  | _ => [0xc0]

def writeItems : List Datum → List UInt8
  | [] => []
  | item :: items => write item ++ writeItems items

def writeEntries : List (Datum × Datum) → List UInt8
  | [] => []
  | (key, value) :: entries => write key ++ write value ++ writeEntries entries

end

end MessagePack

end ChatCommand

/-
Self-describing data, as documents and snapshots hold it.

* `Datum`: nothing, truth values, numbers, text, bytes, lists and tables;
* `Datum.isReadable`, `Datum.depth`: whether every part has a value, and how deep lists and tables
  are nested;
* `Datum.settled`: the datum with the last value of each repeated key alone;
* `Datum.fields?`: the values given to the fields of a record, which may be written as a table or
  as a list in the order of the fields;
* `Fields.required?`, `Fields.optional?`: reading one of them;
* `Datum.text?`, `Datum.integer?`, `Datum.listOf?`, …: reading a datum as a value of one type;
* `Datum.listOf?_bytes_nil`: no bytes are an empty list.
-/

namespace ChatCommand

/-- A piece of self-describing data. -/
inductive Datum where
  | null
  | truth (b : Bool)
  | integer (n : Int)
  /-- A number not below zero, in a form for numbers that may be. It is no place of a field. -/
  | signed (n : Nat)
  | real (x : Float)
  | text (s : String)
  | bytes (b : List UInt8)
  | list (items : List Datum)
  | table (entries : List (Datum × Datum))
  /-- Data of a kind known to the writer alone. -/
  | foreign
  /-- Well-formed, yet without a value: a number beyond all numbers, or half a character. -/
  | unreadable

namespace Datum

mutual

/-- Whether every part of the datum has a value. -/
def isReadable : Datum → Bool
  | unreadable => false
  | list items => areReadable items
  | table entries => entriesAreReadable entries
  | _ => true

def areReadable : List Datum → Bool
  | [] => true
  | d :: ds => d.isReadable && areReadable ds

def entriesAreReadable : List (Datum × Datum) → Bool
  | [] => true
  | (k, d) :: ds => k.isReadable && d.isReadable && entriesAreReadable ds

end

mutual

/-- How deep lists and tables are nested. -/
def depth : Datum → Nat
  | list items => greatestDepth items + 1
  | table entries => greatestEntryDepth entries + 1
  | _ => 0

def greatestDepth : List Datum → Nat
  | [] => 0
  | d :: ds => max d.depth (greatestDepth ds)

def greatestEntryDepth : List (Datum × Datum) → Nat
  | [] => 0
  | (_, d) :: ds => max d.depth (greatestEntryDepth ds)

end

/-- Whether a key is among those of some entries. -/
def hasKey (key : Datum) (entries : List (Datum × Datum)) : Bool :=
  match key with
  | text s => entries.any fun (other, _) =>
    match other with
    | text t => s == t
    | _ => false
  | _ => false

mutual

/-- The datum with each text once among the keys of a table: the last value given to it counts. -/
def settled : Datum → Datum
  | list items => list (settledItems items)
  | table entries => table (settledEntries entries)
  | d => d

def settledItems : List Datum → List Datum
  | [] => []
  | d :: ds => d.settled :: settledItems ds

def settledEntries : List (Datum × Datum) → List (Datum × Datum)
  | [] => []
  | (key, d) :: rest =>
    if key.hasKey rest then settledEntries rest else (key, d.settled) :: settledEntries rest

end

/-- The bytes of a text. -/
def utf8Bytes (s : String) : List UInt8 :=
  s.toUTF8.toList

/-! ### Values of one type -/

/-- A text, or bytes that spell one. -/
def text? : Datum → Option String
  | text s => some s
  | bytes b => String.fromUTF8? ⟨b.toArray⟩
  | _ => none

/-- A text that was written as one. -/
def plainText? : Datum → Option String
  | text s => some s
  | _ => none

/-- An integer between two others, ends included. -/
def integer? (least greatest : Int) : Datum → Option Int
  | integer n => if least ≤ n ∧ n ≤ greatest then some n else none
  | signed n => if least ≤ n ∧ n ≤ greatest then some n else none
  | _ => none

def uint32? (d : Datum) : Option UInt32 :=
  (d.integer? 0 0xffffffff).map fun n => UInt32.ofNat n.toNat

def int32? (d : Datum) : Option Int32 :=
  (d.integer? (-0x80000000) 0x7fffffff).map Int32.ofInt

def int64? (d : Datum) : Option Int64 :=
  (d.integer? (-0x8000000000000000) 0x7fffffffffffffff).map Int64.ofInt

/-- A number of either kind. -/
def number? : Datum → Option Float
  | integer n => some (Float.ofInt n)
  | signed n => some (Float.ofNat n)
  | real x => some x
  | _ => none

/-- Nothing, or a value. -/
def orNull? {α : Type} (read? : Datum → Option α) : Datum → Option (Option α)
  | null => some none
  | d => (read? d).map some

/-- A list of values of one type. Bytes are a list of numbers. -/
def listOf? {α : Type} (read? : Datum → Option α) : Datum → Option (List α)
  | list items => items.mapM read?
  | bytes b => b.mapM fun byte => read? (integer byte.toNat)
  | _ => none

/-- No bytes are a list of nothing, whatever its type. -/
theorem listOf?_bytes_nil {α : Type} (read? : Datum → Option α) :
    listOf? read? (bytes []) = some [] := rfl

end Datum

/-! ### Records -/

/-- The values given to the fields of a record, by name. -/
abbrev Fields := List (String × Datum)

/-- The field that a key means, `some none` for a key that means no field. A field may be given by
name or by place. -/
def Datum.fieldName? (names : List String) : Datum → Option (Option String)
  | text s => some (if names.contains s then some s else none)
  | bytes b => some (names.find? fun name => Datum.utf8Bytes name == b)
  | integer n => if n < 0 then none else some names[n.toNat]?
  | _ => none

/-- The fields of a table. Keys that mean no field are passed over, and no field may be given
twice. -/
def Datum.tableFields? (names : List String) : List (Datum × Datum) → Option Fields
  | [] => some []
  | (key, value) :: rest => do
    let fields ← tableFields? names rest
    match ← key.fieldName? names with
    | none => some fields
    | some name => if (fields.lookup name).isSome then none else some ((name, value) :: fields)

/-- The values given to the fields of a record: a table, or a list in the order of the fields,
which may end early. -/
def Datum.fields? (names : List String) : Datum → Option Fields
  | list items => if items.length ≤ names.length then some (names.zip items) else none
  | table entries => tableFields? names entries
  | _ => none

namespace Fields

/-- The value of a field that must be given. -/
def required? {α : Type} (fields : Fields) (name : String) (read? : Datum → Option α) : Option α :=
  (fields.lookup name).bind read?

/-- The value of a field, or the default if it is not given. -/
def optional? {α : Type} (fields : Fields) (name : String) (default : α)
    (read? : Datum → Option α) : Option α :=
  match fields.lookup name with
  | none => some default
  | some d => read? d

end Fields

end ChatCommand

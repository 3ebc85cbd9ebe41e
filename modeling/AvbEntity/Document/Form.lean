import AvbEntity.Document.Value

/-!
# Forms

A form says how the values of a type stand in a document: how one is written, and how it is read
back. A record is described by the list of its fields, each with its name, and by the blank that
holds the value of every field that a document leaves out. Fields that a document has beyond these
are skipped.

## Main definitions

* `Form α`: how values of `α` are written and read
* `Form.word8` to `word64`, `text`, `eui64`, `mac`, `list`, `optional`, `vector`: the forms of
  simple values
* `Field α`, `Schema α`: the fields of a record
* `Schema.form`: the form of a record
* `Schema.numbered`: a record behind its descriptor index
-/

namespace AvbEntity.Document

/-- How the values of a type stand in a document. -/
structure Form (α : Type) where
  write : α → Value
  read : Value → Except ReadError α

namespace Form

variable {α : Type}

/-- A number below a bound. -/
def below (bound : Nat) : Value → Except ReadError Nat
  | .integer n => if 0 ≤ n ∧ n < bound then .ok n.toNat else .error .misfit
  | _ => .error .misfit

/-- A number of 8 bits. -/
def word8 : Form UInt8 where
  write x := .integer x.toNat
  read v := (below UInt8.size v).map .ofNat

/-- A number of 16 bits. -/
def word16 : Form UInt16 where
  write x := .integer x.toNat
  read v := (below UInt16.size v).map .ofNat

/-- A number of 32 bits. -/
def word32 : Form UInt32 where
  write x := .integer x.toNat
  read v := (below UInt32.size v).map .ofNat

/-- A number of 64 bits. -/
def word64 : Form UInt64 where
  write x := .integer x.toNat
  read v := (below UInt64.size v).map .ofNat

/-- A text. -/
def text : Form String where
  write s := .text s
  read
    | .text s => .ok s
    | _ => .error .misfit

/-- An EUI-64: written as its text, read from any of its spellings or from a number. -/
def eui64 : Form Eui64 where
  write x := .text x.text
  read
    | .text s => (Eui64.parse s).mapError .spelling
    | v => (below UInt64.size v).map .ofNat

/-- A MAC address: written as its text, read from any of its spellings or from a number. -/
def mac : Form Mac where
  write m := .text m.text
  read
    | .text s => (Mac.parse s).mapError .spelling
    | v => do
      let n ← below UInt64.size v
      if n < 1 <<< 48 then return .ofNat n else throw (.macOutOfRange n)

/-- A list of values of one form. -/
def list (f : Form α) : Form (List α) where
  write xs := .list (xs.map f.write)
  read
    | .list vs => vs.mapM f.read
    | _ => .error .misfit

/-- A value of a form, or null. -/
def optional (f : Form α) : Form (Option α) where
  write
    | some x => f.write x
    | none => .null
  read
    | .null => .ok none
    | v => (f.read v).map some

/-- Exactly `n` values of one form. -/
def vector (f : Form α) (n : Nat) : Form (Vector α n) where
  write xs := .list (xs.toList.map f.write)
  read v := do
    let xs ← f.list.read v
    if h : xs.toArray.size = n then return ⟨xs.toArray, h⟩ else throw .misfit

end Form

/-- A field of a record: its name, how it is written, and how reading it changes the record. -/
structure Field (α : Type) where
  name : String
  write : α → Value
  read : Value → α → Except ReadError α

namespace Field

variable {α β : Type}

/-- The field of a given form that `get` returns and `set` replaces. -/
def of (name : String) (form : Form β) (get : α → β) (set : α → β → α) : Field α where
  name
  write a := form.write (get a)
  read v a := (form.read v).map (set a)

/-- The field as one of the second component. -/
def second (f : Field α) : Field (β × α) where
  name := f.name
  write p := f.write p.2
  read v p := (f.read v p.2).map (p.1, ·)

end Field

/-- The fields of a record. -/
structure Schema (α : Type) where
  /-- What a record without entries is read as. -/
  blank : α
  fields : List (Field α)
  /-- The fields that may not be left out. -/
  required : List String := []
  /-- The record may also be written as the list of its first fields. -/
  positional : Bool := true

namespace Schema

variable {α : Type}

/-- The names of the fields, in order. -/
def names (s : Schema α) : List String :=
  s.fields.map (·.name)

/-- The entries of a record, none of a field twice; or the fields of a list, by position. -/
def entries (s : Schema α) : Value → Except ReadError (List (String × Value))
  | .record es =>
    if s.names.all fun name => es.countP (·.1 == name) ≤ 1 then .ok es else .error .misfit
  | .list vs =>
    if s.positional && vs.length ≤ s.fields.length then .ok (s.names.zip vs) else .error .misfit
  | _ => .error .misfit

/-- One entry read into the record: an entry of no field changes nothing. -/
def readEntry (s : Schema α) (a : α) (entry : String × Value) : Except ReadError α :=
  match s.fields.find? (·.name == entry.1) with
  | some f => f.read entry.2 a
  | none => .ok a

/-- The record that a value holds. -/
def read (s : Schema α) (v : Value) : Except ReadError α := do
  let es ← s.entries v
  let a ← es.foldlM s.readEntry s.blank
  if s.required.all fun name => es.any (·.1 == name) then return a else throw .misfit

/-- The entries of all fields of a record. -/
def writeEntries (s : Schema α) (a : α) : List (String × Value) :=
  s.fields.map fun f => (f.name, f.write a)

/-- The form of the record. -/
def form (s : Schema α) : Form α where
  write a := .record (s.writeEntries a)
  read := s.read

/-- The record with the index of its descriptor as its first field. -/
def numbered (s : Schema α) : Schema (UInt16 × α) where
  blank := (0, s.blank)
  fields := .of "descriptor_index" .word16 (·.1) (fun p i => (i, p.2)) :: s.fields.map .second
  required := s.required
  positional := s.positional

end Schema

end AvbEntity.Document

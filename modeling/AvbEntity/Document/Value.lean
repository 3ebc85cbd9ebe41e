import AvbEntity.Identifier.Spelling

/-!
# Document values

What a JSON or TOML document says, apart from how it is spelled: the entries of a record stand in
the order of the text, a name may occur more than once, and of a number only whether it is written
as an integer is kept.

## Main definitions

* `Value`: a value of a document
* `Value.isReadable`: the value may be read, and not only skipped
* `ReadError`: why a value does not fit what it is read as
-/

namespace AvbEntity.Document

/-- A value of a document. -/
inductive Value where
  | null
  | bool (b : Bool)
  /-- A number written as an integer. -/
  | integer (n : Int)
  /-- A number written with a fraction or an exponent, or the negative zero. -/
  | real
  | text (s : String)
  | list (values : List Value)
  | record (entries : List (String × Value))
  /-- A value that may be skipped but not read: a text with half a surrogate pair, a number beyond
  the range of floating point, a list or record nested too deep. -/
  | unreadable

namespace Value

mutual

/-- No part of the value is unreadable. -/
def isReadable : Value → Bool
  | .unreadable => false
  | .list values => allReadable values
  | .record entries => entriesReadable entries
  | _ => true

/-- Every value is readable. -/
def allReadable : List Value → Bool
  | [] => true
  | v :: rest => isReadable v && allReadable rest

/-- The value of every entry is readable. -/
def entriesReadable : List (String × Value) → Bool
  | [] => true
  | (_, v) :: rest => isReadable v && entriesReadable rest

end

end Value

/-- Why a value does not fit what it is read as. -/
inductive ReadError where
  /-- The value has the wrong shape. -/
  | misfit
  /-- A text spells no identifier. -/
  | spelling (fault : SpellingError)
  /-- A number has more than the 48 bits of a MAC address. -/
  | macOutOfRange (n : Nat)
  deriving DecidableEq

/-- The wording of an error that has one. -/
def ReadError.message? : ReadError → Option String
  | .misfit => none
  | .spelling fault => some fault.message
  | .macOutOfRange n => some ("MAC out of range: 0x" ++ .ofList (Text.Hex.shortest n))

end AvbEntity.Document

import AvbEntity.Document.Json.Token

/-!
# JSON documents

The tokens of a JSON text are put together by a machine that keeps the lists and records that are
still open. The text is one value.

## Main definitions

* `Frame`: a list or record that is still open
* `Expecting`, `Builder`, `Builder.step`: the machine
* `Json.read?`: the value of a JSON text
-/

namespace AvbEntity.Document.Json

/-- A list or record that is still open, its parts in reverse. A key that is no text makes a record
unreadable. -/
inductive Frame where
  | list (done : List Value)
  | record (done : List (String × Value)) (readable : Bool)
  /-- A record, of which the value of a key is awaited. -/
  | field (done : List (String × Value)) (readable : Bool) (key : String)

/-- What may come next. -/
inductive Expecting where
  | value
  /-- A value, or the end of the list. -/
  | firstItem
  /-- A key, or the end of the record. -/
  | firstKey
  | key
  | colon
  /-- A comma, or the end of the list or record. -/
  | more
  /-- Nothing: the value is complete. -/
  | nothing (v : Value)

/-- The machine: what is open, the innermost first, and what may come next. -/
structure Builder where
  frames : List Frame
  expecting : Expecting

namespace Builder

/-- The depth from which on lists and records are not read. -/
def maxDepth : Nat :=
  128

/-- A complete value put where it belongs. -/
def deliver (v : Value) : List Frame → Option Builder
  | [] => some ⟨[], .nothing v⟩
  | .list done :: rest => some ⟨.list (v :: done) :: rest, .more⟩
  | .field done readable key :: rest => some ⟨.record ((key, v) :: done) readable :: rest, .more⟩
  | .record .. :: _ => none

/-- The value of a closed list or record, which is unreadable if it is too deep. -/
def close (frames : List Frame) : Option Builder := do
  let tooDeep := maxDepth ≤ frames.length
  match frames with
  | .list done :: rest => deliver (if tooDeep then .unreadable else .list done.reverse) rest
  | .record done readable :: rest =>
    deliver (if tooDeep || !readable then .unreadable else .record done.reverse) rest
  | _ => none

/-- A token that begins a value. -/
def begin (frames : List Frame) : Token → Option Builder
  | .openList => some ⟨.list [] :: frames, .firstItem⟩
  | .openRecord => some ⟨.record [] true :: frames, .firstKey⟩
  | .text (some s) => deliver (.text s) frames
  | .text none => deliver .unreadable frames
  | .scalar v => deliver v frames
  | _ => none

/-- A token that is a key. -/
def key : List Frame → Token → Option Builder
  | .record done readable :: rest, .text s =>
    some ⟨.field done (readable && s.isSome) (s.getD "") :: rest, .colon⟩
  | _, _ => none

/-- One token. -/
def step (b : Builder) (t : Token) : Option Builder :=
  match b.expecting, t with
  | .nothing _, _ => none
  | .colon, .colon => some { b with expecting := .value }
  | .colon, _ => none
  | .value, t => begin b.frames t
  | .firstItem, .closeList => close b.frames
  | .firstItem, t => begin b.frames t
  | .firstKey, .closeRecord => close b.frames
  | .firstKey, t => key b.frames t
  | .key, t => key b.frames t
  | .more, .comma =>
    match b.frames with
    | .list _ :: _ => some { b with expecting := .value }
    | .record .. :: _ => some { b with expecting := .key }
    | _ => none
  | .more, .closeList =>
    match b.frames with
    | .list _ :: _ => close b.frames
    | _ => none
  | .more, .closeRecord =>
    match b.frames with
    | .record .. :: _ => close b.frames
    | _ => none
  | .more, _ => none

end Builder

/-- The value of a JSON text. -/
def read? (s : String) : Option Value := do
  let ts ← tokens? s.toList
  match (← ts.foldlM Builder.step ⟨[], .value⟩).expecting with
  | .nothing v => return v
  | _ => none

end AvbEntity.Document.Json

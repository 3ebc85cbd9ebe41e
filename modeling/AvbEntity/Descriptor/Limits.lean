import AvbEntity.Descriptor.Basic

/-!
# Limits of descriptors

A descriptor can be served only if its texts fit into their fields and the whole of it into one
response.

## Main definitions

* `LimitError`: the limit that a descriptor exceeds
* `Body.texts`: the text fields of a descriptor, with their names
* `Descriptor.check`: the first limit exceeded, if there is one
-/

namespace AvbEntity.Descriptor

/-- The limit that a descriptor exceeds. -/
inductive LimitError where
  /-- A text is longer than its field. -/
  | stringTooLong (field : String) (length : Nat)
  /-- An array of fixed capacity has too many entries. -/
  | arrayTooLong (field : String) (length max : Nat)
  /-- The descriptor is longer than a response can carry. -/
  | descriptorTooLarge (kind : Kind) (index : UInt16) (length max : Nat)
  deriving DecidableEq

/-- The wording of the error. -/
def LimitError.message : LimitError → String
  | .stringTooLong field length =>
    "String field " ++ field ++ " is " ++ toString length ++ " bytes (max 64)"
  | .arrayTooLong field length max =>
    "Array " ++ field ++ " has " ++ toString length ++ " entries (max " ++ toString max ++ ")"
  | .descriptorTooLarge kind index length max =>
    kind.name ++ " descriptor " ++ toString index.toNat ++ " serializes to " ++
      toString length ++ " bytes (max " ++ toString max ++ ")"

/-- The longest descriptor that a response can carry. -/
def maxLength : Nat :=
  508

/-- Requires that a text fits into its field. -/
def checkText (field : String) (s : String) : Except LimitError Unit :=
  if s.utf8ByteSize ≤ Layout.textWidth then .ok ()
  else .error (.stringTooLong field s.utf8ByteSize)

/-- The text fields of the ENTITY, with their names. -/
def Entity.texts (e : Entity) : List (String × String) :=
  [("entity_name", e.entityName), ("firmware_version", e.firmwareVersion),
    ("group_name", e.groupName), ("serial_number", e.serialNumber)]

/-- The text fields of the body, with their names. -/
def Body.texts : Body → List (String × String)
  | .configuration c => [("object_name", c.objectName)]
  | .audioUnit u => [("object_name", u.objectName)]
  | .videoUnit u => [("object_name", u.objectName)]
  | .stream _ s => [("object_name", s.objectName)]
  | .jack _ j => [("object_name", j.objectName)]
  | .avbInterface i => [("object_name", i.objectName)]
  | .clockSource c => [("object_name", c.objectName)]
  | .locale l => [("locale_identifier", l.localeIdentifier)]
  | .strings s => s.strings.map ("strings", ·)
  | .audioCluster c => [("object_name", c.objectName)]
  | .videoCluster c => [("object_name", c.objectName)]
  | .clockDomain d => [("object_name", d.objectName)]
  | .streamPort .. | .audioMap _ | .videoMap _ | .unsupported _ => []

/-- Requires that every text fits into its field. -/
def checkTexts (texts : List (String × String)) : Except LimitError Unit :=
  texts.forM fun (field, s) => checkText field s

/-- Requires that the ENTITY's texts fit into their fields. -/
def Entity.check (e : Entity) : Except LimitError Unit :=
  checkTexts e.texts

/-- Requires that the body's array of fixed capacity, if it has one, has not too many entries. -/
def Body.checkCapacity : Body → Except LimitError Unit
  | .strings s =>
    if s.strings.length ≤ Strings.capacity then .ok ()
    else .error (.arrayTooLong "strings" s.strings.length Strings.capacity)
  | _ => .ok ()

/-- Requires that the descriptor fits into a response. -/
def checkLength (d : Descriptor) : Except LimitError Unit :=
  if d.encode.length ≤ maxLength then .ok ()
  else .error (.descriptorTooLarge d.kind d.index d.encode.length maxLength)

/-- Requires the limits of a descriptor: capacity, then texts, then length. -/
def check (d : Descriptor) : Except LimitError Unit := do
  match d with
  | .entity e => e.check
  | .numbered _ body =>
    body.checkCapacity
    checkTexts body.texts
  d.checkLength

end AvbEntity.Descriptor

import AvbEntity.Descriptor.Basic

/-!
# Descriptors in documents

A descriptor is a record whose entry `type` names its kind, beside the fields of that kind. The
type `unsupported` stands for every kind of which only the kind is known; the entry `kind` names
it. A descriptor may also be written as the list of its type and the values of its fields.

## Main definitions

* `Kind.form`: the name of a kind
* `Body.tag`, `Body.writeEntries`, `Body.read`: the body of a descriptor
* `Descriptor.form`: the form of a descriptor
-/

namespace AvbEntity

open Document (Form ReadError Schema Value)

/-- A kind is written as its name. A record whose one entry has that name, and nothing for its
value, is read as the kind too. -/
def Kind.form : Form Kind where
  write k := .text k.label
  read
    | .text s | .record [(s, .null)] | .record [(s, .record [])] =>
      match ofLabel? s with
      | some k => .ok k
      | none => .error .misfit
    | _ => .error .misfit

namespace Descriptor

/-- The fields of a descriptor of which only the kind is known. -/
def unsupportedSchema : Schema (Kind × UInt16) where
  blank := (.entity, 0)
  fields := [
    .of "kind" Kind.form (·.1) (fun p kind => (kind, p.2)),
    .of "descriptor_index" .word16 (·.2) (fun p index => (p.1, index))]
  required := ["kind"]

namespace Body

/-- The type that stands in documents for a descriptor of which only the kind is known. -/
def unsupportedTag : String :=
  "unsupported"

/-- The type of the descriptor in documents. -/
def tag : Body → String
  | .unsupported _ => unsupportedTag
  | body => body.kind.label

/-- The entries beside the type. -/
def writeEntries (index : UInt16) : Body → List (String × Value)
  | .configuration c => Summary.schema.numbered.writeEntries (index, c)
  | .audioUnit u => AudioUnit.schema.numbered.writeEntries (index, u)
  | .videoUnit u => VideoUnit.schema.numbered.writeEntries (index, u)
  | .stream _ s => Stream.schema.numbered.writeEntries (index, s)
  | .jack _ j => Jack.schema.numbered.writeEntries (index, j)
  | .avbInterface i => AvbInterface.schema.numbered.writeEntries (index, i)
  | .clockSource c => ClockSource.schema.numbered.writeEntries (index, c)
  | .locale l => Locale.schema.numbered.writeEntries (index, l)
  | .strings s => Strings.schema.numbered.writeEntries (index, s)
  | .streamPort _ p => StreamPort.schema.numbered.writeEntries (index, p)
  | .audioCluster c => AudioCluster.schema.numbered.writeEntries (index, c)
  | .videoCluster c => VideoCluster.schema.numbered.writeEntries (index, c)
  | .audioMap mappings =>
    (mapSchema AudioMapping.schema.form).numbered.writeEntries (index, mappings)
  | .videoMap mappings =>
    (mapSchema VideoMapping.schema.form).numbered.writeEntries (index, mappings)
  | .clockDomain d => ClockDomain.schema.numbered.writeEntries (index, d)
  | .unsupported kind => unsupportedSchema.writeEntries (kind, index)

/-- The descriptor with a record of the schema as its body. -/
def readNumbered {α : Type} (schema : Schema α) (make : α → Body) (v : Value) :
    Except ReadError Descriptor :=
  (schema.numbered.read v).map fun (index, a) => .numbered index (make a)

/-- The descriptor of a kind with a layout that a value holds beside its type. -/
def read (kind : Kind) (v : Value) : Except ReadError Descriptor :=
  match kind with
  | .entity => (Entity.schema.read v).map .entity
  | .configuration => readNumbered Summary.schema .configuration v
  | .audioUnit => readNumbered AudioUnit.schema .audioUnit v
  | .videoUnit => readNumbered VideoUnit.schema .videoUnit v
  | .streamInput => readNumbered Stream.schema (.stream .input) v
  | .streamOutput => readNumbered Stream.schema (.stream .output) v
  | .jackInput => readNumbered Jack.schema (.jack .input) v
  | .jackOutput => readNumbered Jack.schema (.jack .output) v
  | .avbInterface => readNumbered AvbInterface.schema .avbInterface v
  | .clockSource => readNumbered ClockSource.schema .clockSource v
  | .locale => readNumbered Locale.schema .locale v
  | .strings => readNumbered Strings.schema .strings v
  | .streamPortInput => readNumbered StreamPort.schema (.streamPort .input) v
  | .streamPortOutput => readNumbered StreamPort.schema (.streamPort .output) v
  | .audioCluster => readNumbered AudioCluster.schema .audioCluster v
  | .videoCluster => readNumbered VideoCluster.schema .videoCluster v
  | .audioMap => readNumbered (mapSchema AudioMapping.schema.form) .audioMap v
  | .videoMap => readNumbered (mapSchema VideoMapping.schema.form) .videoMap v
  | .clockDomain => readNumbered ClockDomain.schema .clockDomain v
  | _ => .error .misfit

end Body

/-- The entry of a descriptor that names its type. -/
def typeField : String :=
  "type"

/-- The descriptor of a type that a value holds beside the type. -/
def readTagged (tag : String) (v : Value) : Except ReadError Descriptor :=
  if tag = Body.unsupportedTag then
    (unsupportedSchema.read v).map fun (kind, index) => .numbered index (.unsupported kind)
  else
    match Kind.ofLabel? tag with
    | some kind => Body.read kind v
    | none => .error .misfit

/-- The descriptor that a readable value holds. -/
def readReadable : Value → Except ReadError Descriptor
  | .record es =>
    match es.filter (·.1 == typeField) with
    | [(_, .text tag)] => readTagged tag (.record (es.filter (·.1 != typeField)))
    | _ => .error .misfit
  | .list (.text tag :: vs) => readTagged tag (.list vs)
  | _ => .error .misfit

/-- The form of a descriptor. No part of it may be unreadable, not even one that is skipped. -/
def form : Form Descriptor where
  write
    | .entity e => .record ((typeField, .text Kind.entity.label) :: Entity.schema.writeEntries e)
    | .numbered index body =>
      .record ((typeField, .text body.tag) :: body.writeEntries index)
  read v := if v.isReadable then readReadable v else .error .misfit

end Descriptor

end AvbEntity

import AvbEntity.Descriptor.Clock
import AvbEntity.Descriptor.Cluster
import AvbEntity.Descriptor.Entity
import AvbEntity.Descriptor.Interface
import AvbEntity.Descriptor.Kind
import AvbEntity.Descriptor.Localization
import AvbEntity.Descriptor.Mapping
import AvbEntity.Descriptor.Stream

/-!
# Descriptors

A descriptor is the ENTITY, or a body behind the index that tells it from the others of its kind.
Its octets are the type code, the index and the body; a kind without layout has no octets.

## Main definitions

* `Body`, `Body.kind`: what a descriptor holds, and its kind
* `Descriptor`, `Descriptor.kind`, `Descriptor.index`, `Descriptor.renumber`
* `Descriptor.encode`, `Descriptor.parse`: the octets of a descriptor
-/

namespace AvbEntity

namespace Descriptor

/-- What a descriptor other than the ENTITY holds. -/
inductive Body where
  | configuration (c : Summary)
  | audioUnit (u : AudioUnit)
  | videoUnit (u : VideoUnit)
  | stream (direction : Direction) (s : Stream)
  | jack (direction : Direction) (j : Jack)
  | avbInterface (i : AvbInterface)
  | clockSource (c : ClockSource)
  | locale (l : Locale)
  | strings (s : Strings)
  | streamPort (direction : Direction) (p : StreamPort)
  | audioCluster (c : AudioCluster)
  | videoCluster (c : VideoCluster)
  | audioMap (mappings : List AudioMapping)
  | videoMap (mappings : List VideoMapping)
  | clockDomain (d : ClockDomain)
  /-- A descriptor of which only the kind is known. -/
  | unsupported (kind : Kind)
  deriving DecidableEq

namespace Body

/-- The kind of the descriptor. -/
def kind : Body → Kind
  | .configuration _ => .configuration
  | .audioUnit _ => .audioUnit
  | .videoUnit _ => .videoUnit
  | .stream .input _ => .streamInput
  | .stream .output _ => .streamOutput
  | .jack .input _ => .jackInput
  | .jack .output _ => .jackOutput
  | .avbInterface _ => .avbInterface
  | .clockSource _ => .clockSource
  | .locale _ => .locale
  | .strings _ => .strings
  | .streamPort .input _ => .streamPortInput
  | .streamPort .output _ => .streamPortOutput
  | .audioCluster _ => .audioCluster
  | .videoCluster _ => .videoCluster
  | .audioMap _ => .audioMap
  | .videoMap _ => .videoMap
  | .clockDomain _ => .clockDomain
  | .unsupported kind => kind

/-- The octets of the body; there are none where the layout is unknown. -/
def write : Body → Octets
  | .configuration c => c.write
  | .audioUnit u => u.write
  | .videoUnit u => VideoUnit.layout.write u
  | .stream _ s => s.write
  | .jack _ j => Jack.layout.write j
  | .avbInterface i => AvbInterface.layout.write i
  | .clockSource c => ClockSource.layout.write c
  | .locale l => Locale.layout.write l
  | .strings s => Strings.layout.write s
  | .streamPort _ p => StreamPort.layout.write p
  | .audioCluster c => AudioCluster.layout.write c
  | .videoCluster c => c.write
  | .audioMap mappings => writeMappings AudioMapping.layout mappings
  | .videoMap mappings => writeMappings VideoMapping.layout mappings
  | .clockDomain d => d.write
  | .unsupported _ => []

/-- The body of a kind at the start of octets. The ENTITY has no such body. -/
def parse (kind : Kind) (bs : Octets) : Except DecodeError Body :=
  match kind with
  | .configuration => Body.configuration <$> Summary.parse bs
  | .audioUnit => Body.audioUnit <$> AudioUnit.parse bs
  | .videoUnit => Body.videoUnit <$> VideoUnit.layout.parse bs
  | .streamInput => Body.stream .input <$> Stream.parse bs
  | .streamOutput => Body.stream .output <$> Stream.parse bs
  | .jackInput => Body.jack .input <$> Jack.layout.parse bs
  | .jackOutput => Body.jack .output <$> Jack.layout.parse bs
  | .avbInterface => Body.avbInterface <$> AvbInterface.layout.parse bs
  | .clockSource => Body.clockSource <$> ClockSource.layout.parse bs
  | .locale => Body.locale <$> Locale.layout.parse bs
  | .strings => Body.strings <$> Strings.layout.parse bs
  | .streamPortInput => Body.streamPort .input <$> StreamPort.layout.parse bs
  | .streamPortOutput => Body.streamPort .output <$> StreamPort.layout.parse bs
  | .audioCluster => Body.audioCluster <$> AudioCluster.layout.parse bs
  | .videoCluster => Body.videoCluster <$> VideoCluster.parse bs
  | .audioMap => Body.audioMap <$> parseMappings AudioMapping.layout bs
  | .videoMap => Body.videoMap <$> parseMappings VideoMapping.layout bs
  | .clockDomain => Body.clockDomain <$> ClockDomain.parse bs
  | kind => .error (.unsupportedDescriptor kind.code)

end Body

end Descriptor

/-- A descriptor of the entity model. -/
inductive Descriptor where
  /-- The one descriptor of the entity. -/
  | entity (e : Descriptor.Entity)
  /-- One of the descriptors of a kind. -/
  | numbered (index : UInt16) (body : Descriptor.Body)
  deriving DecidableEq

namespace Descriptor

/-- The kind of the descriptor. -/
def kind : Descriptor → Kind
  | .entity _ => .entity
  | .numbered _ body => body.kind

/-- The index of the descriptor among those of its kind. -/
def index : Descriptor → UInt16
  | .entity _ => 0
  | .numbered index _ => index

/-- The descriptor at another index. -/
def renumber (index : UInt16) : Descriptor → Descriptor
  | .entity e => .entity e
  | .numbered _ body => .numbered index body

/-- The type code and the index in front of every body. -/
def head : Layout (UInt16 × UInt16) :=
  Layout.word16.pair Layout.word16

/-- The octets of the descriptor; there are none where the layout is unknown. -/
def encode : Descriptor → Octets
  | .entity e => head.write (Kind.entity.code, 0) ++ Entity.layout.write e
  | .numbered _ (.unsupported _) => []
  | .numbered index body => head.write (body.kind.code, index) ++ body.write

/-- The descriptor at the start of octets. -/
def parse (bs : Octets) : Except DecodeError Descriptor := do
  let (code, index) ← head.parse bs
  match Kind.ofCode? code with
  | none => throw (.unknownDescriptorType code)
  | some .entity => Descriptor.entity <$> Entity.layout.parse (bs.drop headWidth)
  | some kind => Descriptor.numbered index <$> Body.parse kind (bs.drop headWidth)

end Descriptor

end AvbEntity

import AvbEntity.Descriptor.Unit

/-!
# STREAM_INPUT, STREAM_OUTPUT and their ports

Streams and stream ports come in two directions with one layout.

## Main definitions

* `Direction`: into or out of the entity
* `TalkerRef`: a talker that can stand in for another
* `Stream`, `Stream.write`, `Stream.parse`, `Stream.schema`
* `StreamPort`, `StreamPort.layout`, `StreamPort.schema`
-/

namespace AvbEntity.Descriptor

open Document (Form Schema)

/-- Into the entity or out of it. -/
inductive Direction where
  | input
  | output
  deriving DecidableEq

/-- A stream output of an entity. -/
structure TalkerRef where
  entityId : Eui64 := .zero
  uniqueId : UInt16 := 0
  deriving DecidableEq

namespace TalkerRef

/-- The entity in front of the stream output. -/
def layout : Layout TalkerRef :=
  .iso (Layout.eui64.pair Layout.word16) (fun (entityId, uniqueId) => { entityId, uniqueId })
    (fun t => (t.entityId, t.uniqueId))

/-- The fields in documents. -/
def schema : Schema TalkerRef where
  blank := {}
  fields := [
    .of "entity_id" .eui64 (·.entityId) ({ · with entityId := · }),
    .of "unique_id" .word16 (·.uniqueId) ({ · with uniqueId := · })]

end TalkerRef

/-- The body of a STREAM_INPUT or STREAM_OUTPUT descriptor. -/
structure Stream where
  objectName : String := ""
  localizedDescription : UInt16 := 0
  clockDomainIndex : UInt16 := 0
  streamFlags : UInt16 := 0
  currentFormat : UInt64 := 0
  formats : List UInt64 := []
  backupTalkers : Vector TalkerRef 3 := .replicate 3 {}
  backedupTalker : TalkerRef := {}
  avbInterfaceIndex : UInt16 := 0
  bufferLength : UInt32 := 0
  deriving DecidableEq

namespace Stream

/-- The fixed part; the offset and the number of the formats stand before the talkers. -/
def head : Layout (String × UInt16 × UInt16 × UInt16 × UInt64 × UInt16 × UInt16 ×
    Vector TalkerRef 3 × TalkerRef × UInt16 × UInt32) :=
  Layout.text.pair <| Layout.word16.pair <| Layout.word16.pair <| Layout.word16.pair <|
    Layout.word64.pair <| Layout.word16.pair <| Layout.word16.pair <|
    (TalkerRef.layout.vector 3).pair <| TalkerRef.layout.pair <|
    Layout.word16.pair Layout.word32

/-- Where the formats start. -/
def formatsOffset : Nat :=
  headWidth + head.width

/-- The octets of the body. -/
def write (s : Stream) : Octets :=
  head.write (s.objectName, s.localizedDescription, s.clockDomainIndex, s.streamFlags,
    s.currentFormat, offsetWord formatsOffset, countWord s.formats, s.backupTalkers,
    s.backedupTalker, s.avbInterfaceIndex, s.bufferLength) ++
  Layout.word64.writeArray s.formats

/-- The body at the start of octets. -/
def parse (bs : Octets) : Except DecodeError Stream := do
  let (objectName, localizedDescription, clockDomainIndex, streamFlags, currentFormat, offset,
    count, backupTalkers, backedupTalker, avbInterfaceIndex, bufferLength) ← head.parse bs
  checkOffset "formats_offset" offset formatsOffset
  let (formats, _) ← Layout.word64.parseArray count (bs.drop head.width)
  return { objectName, localizedDescription, clockDomainIndex, streamFlags, currentFormat,
           formats, backupTalkers, backedupTalker, avbInterfaceIndex, bufferLength }

/-- The fields in documents. -/
def schema : Schema Stream where
  blank := {}
  fields := [
    .of "object_name" .text (·.objectName) ({ · with objectName := · }),
    .of "localized_description" .word16 (·.localizedDescription)
      ({ · with localizedDescription := · }),
    .of "clock_domain_index" .word16 (·.clockDomainIndex) ({ · with clockDomainIndex := · }),
    .of "stream_flags" .word16 (·.streamFlags) ({ · with streamFlags := · }),
    .of "current_format" .word64 (·.currentFormat) ({ · with currentFormat := · }),
    .of "formats" (.list .word64) (·.formats) ({ · with formats := · }),
    .of "backup_talkers" (.vector TalkerRef.schema.form 3) (·.backupTalkers)
      ({ · with backupTalkers := · }),
    .of "backedup_talker" TalkerRef.schema.form (·.backedupTalker)
      ({ · with backedupTalker := · }),
    .of "avb_interface_index" .word16 (·.avbInterfaceIndex) ({ · with avbInterfaceIndex := · }),
    .of "buffer_length" .word32 (·.bufferLength) ({ · with bufferLength := · })]

end Stream

/-- The body of a STREAM_PORT_INPUT or STREAM_PORT_OUTPUT descriptor. -/
structure StreamPort where
  clockDomainIndex : UInt16 := 0
  portFlags : UInt16 := 0
  controls : Span := {}
  clusters : Span := {}
  maps : Span := {}
  deriving DecidableEq

namespace StreamPort

/-- The 16 octets of the body. -/
def layout : Layout StreamPort :=
  .iso (Layout.word16.pair <| Layout.word16.pair <| Span.layout.pair <|
      Span.layout.pair Span.layout)
    (fun (clockDomainIndex, portFlags, controls, clusters, maps) =>
      { clockDomainIndex, portFlags, controls, clusters, maps })
    (fun p => (p.clockDomainIndex, p.portFlags, p.controls, p.clusters, p.maps))

/-- The fields in documents, two for each range. -/
def schema : Schema StreamPort where
  blank := {}
  fields := [
    .of "clock_domain_index" .word16 (·.clockDomainIndex) ({ · with clockDomainIndex := · }),
    .of "port_flags" .word16 (·.portFlags) ({ · with portFlags := · }),
    .of "number_of_controls" .word16 (·.controls.count) ({ · with controls.count := · }),
    .of "base_control" .word16 (·.controls.base) ({ · with controls.base := · }),
    .of "number_of_clusters" .word16 (·.clusters.count) ({ · with clusters.count := · }),
    .of "base_cluster" .word16 (·.clusters.base) ({ · with clusters.base := · }),
    .of "number_of_maps" .word16 (·.maps.count) ({ · with maps.count := · }),
    .of "base_map" .word16 (·.maps.base) ({ · with maps.base := · })]

end StreamPort

end AvbEntity.Descriptor

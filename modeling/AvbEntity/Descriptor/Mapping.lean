import AvbEntity.Descriptor.Array
import AvbEntity.Document.Form

/-!
# AUDIO_MAP and VIDEO_MAP

A map is a list of mappings of four numbers each, behind the offset and the number of them.

## Main definitions

* `AudioMapping`, `VideoMapping`: one entry of a map
* `writeMappings`, `parseMappings`: the body of a map
-/

namespace AvbEntity.Descriptor

open Document (Form Schema)

/-- How a channel of a stream is tied to a channel of a cluster. -/
structure AudioMapping where
  streamIndex : UInt16 := 0
  streamChannel : UInt16 := 0
  clusterOffset : UInt16 := 0
  clusterChannel : UInt16 := 0
  deriving DecidableEq

namespace AudioMapping

/-- The four numbers of the mapping. -/
def layout : Layout AudioMapping :=
  .iso (Layout.word16.pair <| Layout.word16.pair <| Layout.word16.pair Layout.word16)
    (fun (streamIndex, streamChannel, clusterOffset, clusterChannel) =>
      { streamIndex, streamChannel, clusterOffset, clusterChannel })
    (fun m => (m.streamIndex, m.streamChannel, m.clusterOffset, m.clusterChannel))

/-- The fields in documents. -/
def schema : Schema AudioMapping where
  blank := {}
  fields := [
    .of "stream_index" .word16 (·.streamIndex) ({ · with streamIndex := · }),
    .of "stream_channel" .word16 (·.streamChannel) ({ · with streamChannel := · }),
    .of "cluster_offset" .word16 (·.clusterOffset) ({ · with clusterOffset := · }),
    .of "cluster_channel" .word16 (·.clusterChannel) ({ · with clusterChannel := · })]

end AudioMapping

/-- How an elementary stream is tied to a cluster. -/
structure VideoMapping where
  streamIndex : UInt16 := 0
  programStream : UInt16 := 0
  elementaryStream : UInt16 := 0
  clusterOffset : UInt16 := 0
  deriving DecidableEq

namespace VideoMapping

/-- The four numbers of the mapping. -/
def layout : Layout VideoMapping :=
  .iso (Layout.word16.pair <| Layout.word16.pair <| Layout.word16.pair Layout.word16)
    (fun (streamIndex, programStream, elementaryStream, clusterOffset) =>
      { streamIndex, programStream, elementaryStream, clusterOffset })
    (fun m => (m.streamIndex, m.programStream, m.elementaryStream, m.clusterOffset))

/-- The fields in documents. -/
def schema : Schema VideoMapping where
  blank := {}
  fields := [
    .of "stream_index" .word16 (·.streamIndex) ({ · with streamIndex := · }),
    .of "program_stream" .word16 (·.programStream) ({ · with programStream := · }),
    .of "elementary_stream" .word16 (·.elementaryStream) ({ · with elementaryStream := · }),
    .of "cluster_offset" .word16 (·.clusterOffset) ({ · with clusterOffset := · })]

end VideoMapping

/-- The fixed part of a map: the offset and the number of the mappings. -/
def mapHead : Layout (UInt16 × UInt16) :=
  Layout.word16.pair Layout.word16

/-- Where the mappings start. -/
def mappingsOffset : Nat :=
  headWidth + mapHead.width

/-- The octets of the body of a map. -/
def writeMappings {α : Type} (l : Layout α) (mappings : List α) : Octets :=
  mapHead.write (offsetWord mappingsOffset, countWord mappings) ++ l.writeArray mappings

/-- The mappings in the body of a map. -/
def parseMappings {α : Type} (l : Layout α) (bs : Octets) : Except DecodeError (List α) := do
  let (offset, count) ← mapHead.parse bs
  checkOffset "mappings_offset" offset mappingsOffset
  let (mappings, _) ← l.parseArray count (bs.drop mapHead.width)
  return mappings

/-- The fields of a map in documents. -/
def mapSchema {α : Type} (form : Form α) : Schema (List α) where
  blank := []
  fields := [.of "mappings" (.list form) id (fun _ mappings => mappings)]

end AvbEntity.Descriptor

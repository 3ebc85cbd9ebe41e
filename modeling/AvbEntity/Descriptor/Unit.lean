import AvbEntity.Descriptor.Array
import AvbEntity.Document.Form

/-!
# AUDIO_UNIT and VIDEO_UNIT

A unit owns ranges of ports, controls and processing blocks. Sixteen kinds of them stand in every
unit in a fixed order, each as a number of members and the index of the first.

## Main definitions

* `Span`: a range of descriptors of one kind
* `resourceNames`: the kinds of ranges of a unit, in order
* `AudioUnit`, `AudioUnit.write`, `AudioUnit.parse`, `AudioUnit.schema`
* `VideoUnit`, `VideoUnit.layout`, `VideoUnit.schema`
-/

namespace AvbEntity.Descriptor

open Document (Form Schema)

/-- A range of descriptors of one kind: how many, and the index of the first. -/
structure Span where
  count : UInt16 := 0
  base : UInt16 := 0
  deriving DecidableEq

namespace Span

/-- The count in front of the first index. -/
def layout : Layout Span :=
  .iso (Layout.word16.pair Layout.word16) (fun (count, base) => { count, base })
    (fun s => (s.count, s.base))

/-- The fields in documents. -/
def schema : Schema Span where
  blank := {}
  fields := [
    .of "count" .word16 (·.count) ({ · with count := · }),
    .of "base" .word16 (·.base) ({ · with base := · })]

end Span

/-- The names of the ranges of a unit, in the order of the layout. -/
def resourceNames : Vector String 16 :=
  #v["stream_input_ports", "stream_output_ports", "external_input_ports", "external_output_ports",
    "internal_input_ports", "internal_output_ports", "controls", "signal_selectors", "mixers",
    "matrices", "splitters", "combiners", "demultiplexers", "multiplexers", "transcoders",
    "control_blocks"]

/-- The ranges of a unit, in the order of their names. -/
abbrev Resources := Vector Span 16

namespace Resources

/-- No range has a member. -/
def none : Resources :=
  .replicate 16 {}

/-- The ranges one after another. -/
def layout : Layout Resources :=
  Span.layout.vector 16

/-- One field of a unit for each range. -/
def fields {α : Type} (get : α → Resources) (set : α → Resources → α) : List (Document.Field α) :=
  (List.finRange 16).map fun (i : Fin 16) =>
    .of resourceNames[i] Span.schema.form (fun a => (get a)[i])
      (fun a span => set a ((get a).set i span))

end Resources

/-- The body of an AUDIO_UNIT descriptor. -/
structure AudioUnit where
  objectName : String := ""
  localizedDescription : UInt16 := 0
  clockDomainIndex : UInt16 := 0
  resources : Resources := .none
  currentSamplingRate : UInt32 := 0
  samplingRates : List UInt32 := []
  deriving DecidableEq

namespace AudioUnit

/-- The fixed part, up to the offset and the number of the sampling rates. -/
def head : Layout (String × UInt16 × UInt16 × Resources × UInt32 × UInt16 × UInt16) :=
  Layout.text.pair <| Layout.word16.pair <| Layout.word16.pair <| Resources.layout.pair <|
    Layout.word32.pair <| Layout.word16.pair Layout.word16

/-- Where the sampling rates start. -/
def ratesOffset : Nat :=
  headWidth + head.width

/-- The octets of the body. -/
def write (u : AudioUnit) : Octets :=
  head.write (u.objectName, u.localizedDescription, u.clockDomainIndex, u.resources,
    u.currentSamplingRate, offsetWord ratesOffset, countWord u.samplingRates) ++
  Layout.word32.writeArray u.samplingRates

/-- The body at the start of octets. -/
def parse (bs : Octets) : Except DecodeError AudioUnit := do
  let (objectName, localizedDescription, clockDomainIndex, resources, currentSamplingRate, offset,
    count) ← head.parse bs
  checkOffset "sampling_rates_offset" offset ratesOffset
  let (samplingRates, _) ← Layout.word32.parseArray count (bs.drop head.width)
  return { objectName, localizedDescription, clockDomainIndex, resources, currentSamplingRate,
           samplingRates }

/-- The fields in documents, where the ranges stand beside the other fields. -/
def schema : Schema AudioUnit where
  blank := {}
  fields := [
    .of "object_name" .text (·.objectName) ({ · with objectName := · }),
    .of "localized_description" .word16 (·.localizedDescription)
      ({ · with localizedDescription := · }),
    .of "clock_domain_index" .word16 (·.clockDomainIndex) ({ · with clockDomainIndex := · }),
    .of "current_sampling_rate" .word32 (·.currentSamplingRate)
      ({ · with currentSamplingRate := · }),
    .of "sampling_rates" (.list .word32) (·.samplingRates) ({ · with samplingRates := · })] ++
    Resources.fields (·.resources) ({ · with resources := · })
  positional := false

end AudioUnit

/-- The body of a VIDEO_UNIT descriptor. -/
structure VideoUnit where
  objectName : String := ""
  localizedDescription : UInt16 := 0
  clockDomainIndex : UInt16 := 0
  resources : Resources := .none
  deriving DecidableEq

namespace VideoUnit

/-- The 132 octets of the body. -/
def layout : Layout VideoUnit :=
  .iso (Layout.text.pair <| Layout.word16.pair <| Layout.word16.pair Resources.layout)
    (fun (objectName, localizedDescription, clockDomainIndex, resources) =>
      { objectName, localizedDescription, clockDomainIndex, resources })
    (fun u => (u.objectName, u.localizedDescription, u.clockDomainIndex, u.resources))

/-- The fields in documents, where the ranges stand beside the other fields. -/
def schema : Schema VideoUnit where
  blank := {}
  fields := [
    .of "object_name" .text (·.objectName) ({ · with objectName := · }),
    .of "localized_description" .word16 (·.localizedDescription)
      ({ · with localizedDescription := · }),
    .of "clock_domain_index" .word16 (·.clockDomainIndex) ({ · with clockDomainIndex := · })] ++
    Resources.fields (·.resources) ({ · with resources := · })
  positional := false

end VideoUnit

end AvbEntity.Descriptor

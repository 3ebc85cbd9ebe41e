import AvbEntity.Descriptor.Array
import AvbEntity.Document.Form

/-!
# CLOCK_SOURCE and CLOCK_DOMAIN

## Main definitions

* `ClockSource`, `ClockSource.layout`, `ClockSource.schema`
* `ClockDomain`, `ClockDomain.write`, `ClockDomain.parse`, `ClockDomain.schema`
-/

namespace AvbEntity.Descriptor

open Document (Form Schema)

/-- The body of a CLOCK_SOURCE descriptor. -/
structure ClockSource where
  objectName : String := ""
  localizedDescription : UInt16 := 0
  clockSourceFlags : UInt16 := 0
  clockSourceType : UInt16 := 0
  clockSourceIdentifier : Eui64 := .zero
  clockSourceLocationType : UInt16 := 0
  clockSourceLocationIndex : UInt16 := 0
  deriving DecidableEq

namespace ClockSource

/-- The 82 octets of the body. -/
def layout : Layout ClockSource :=
  .iso (Layout.text.pair <| Layout.word16.pair <| Layout.word16.pair <| Layout.word16.pair <|
      Layout.eui64.pair <| Layout.word16.pair Layout.word16)
    (fun (objectName, localizedDescription, clockSourceFlags, clockSourceType,
        clockSourceIdentifier, clockSourceLocationType, clockSourceLocationIndex) =>
      { objectName, localizedDescription, clockSourceFlags, clockSourceType,
        clockSourceIdentifier, clockSourceLocationType, clockSourceLocationIndex })
    (fun c => (c.objectName, c.localizedDescription, c.clockSourceFlags, c.clockSourceType,
      c.clockSourceIdentifier, c.clockSourceLocationType, c.clockSourceLocationIndex))

/-- The fields in documents. -/
def schema : Schema ClockSource where
  blank := {}
  fields := [
    .of "object_name" .text (·.objectName) ({ · with objectName := · }),
    .of "localized_description" .word16 (·.localizedDescription)
      ({ · with localizedDescription := · }),
    .of "clock_source_flags" .word16 (·.clockSourceFlags) ({ · with clockSourceFlags := · }),
    .of "clock_source_type" .word16 (·.clockSourceType) ({ · with clockSourceType := · }),
    .of "clock_source_identifier" .eui64 (·.clockSourceIdentifier)
      ({ · with clockSourceIdentifier := · }),
    .of "clock_source_location_type" .word16 (·.clockSourceLocationType)
      ({ · with clockSourceLocationType := · }),
    .of "clock_source_location_index" .word16 (·.clockSourceLocationIndex)
      ({ · with clockSourceLocationIndex := · })]

end ClockSource

/-- The body of a CLOCK_DOMAIN descriptor. -/
structure ClockDomain where
  objectName : String := ""
  localizedDescription : UInt16 := 0
  clockSourceIndex : UInt16 := 0
  clockSources : List UInt16 := []
  deriving DecidableEq

namespace ClockDomain

/-- The fixed part, up to the offset and the number of the clock sources. -/
def head : Layout (String × UInt16 × UInt16 × UInt16 × UInt16) :=
  Layout.text.pair <| Layout.word16.pair <| Layout.word16.pair <|
    Layout.word16.pair Layout.word16

/-- Where the clock sources start. -/
def sourcesOffset : Nat :=
  headWidth + head.width

/-- The octets of the body. -/
def write (d : ClockDomain) : Octets :=
  head.write (d.objectName, d.localizedDescription, d.clockSourceIndex, offsetWord sourcesOffset,
    countWord d.clockSources) ++
  Layout.word16.writeArray d.clockSources

/-- The body at the start of octets. -/
def parse (bs : Octets) : Except DecodeError ClockDomain := do
  let (objectName, localizedDescription, clockSourceIndex, offset, count) ← head.parse bs
  checkOffset "clock_sources_offset" offset sourcesOffset
  let (clockSources, _) ← Layout.word16.parseArray count (bs.drop head.width)
  return { objectName, localizedDescription, clockSourceIndex, clockSources }

/-- The fields in documents. -/
def schema : Schema ClockDomain where
  blank := {}
  fields := [
    .of "object_name" .text (·.objectName) ({ · with objectName := · }),
    .of "localized_description" .word16 (·.localizedDescription)
      ({ · with localizedDescription := · }),
    .of "clock_source_index" .word16 (·.clockSourceIndex) ({ · with clockSourceIndex := · }),
    .of "clock_sources" (.list .word16) (·.clockSources) ({ · with clockSources := · })]

end ClockDomain

end AvbEntity.Descriptor

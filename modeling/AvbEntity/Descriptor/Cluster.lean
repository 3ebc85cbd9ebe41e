import AvbEntity.Descriptor.Array
import AvbEntity.Document.Form

/-!
# AUDIO_CLUSTER and VIDEO_CLUSTER

Both kinds of clusters begin with the signal that feeds them. A video cluster ends in five arrays,
each of which starts where the one before it ends.

## Main definitions

* `AudioCluster`, `AudioCluster.layout`, `AudioCluster.schema`
* `VideoCluster`, `VideoCluster.write`, `VideoCluster.parse`, `VideoCluster.schema`
* `VideoCluster.arraysOffset`, `VideoCluster.ratesOffset`, `VideoCluster.ratiosOffset`,
  `VideoCluster.sizesOffset`, `VideoCluster.spacesOffset`: where the five arrays start
-/

namespace AvbEntity.Descriptor

open Document (Form Schema)

/-- The body of an AUDIO_CLUSTER descriptor. -/
structure AudioCluster where
  objectName : String := ""
  localizedDescription : UInt16 := 0
  signalType : UInt16 := 0
  signalIndex : UInt16 := 0
  signalOutput : UInt16 := 0
  pathLatency : UInt32 := 0
  blockLatency : UInt32 := 0
  channelCount : UInt16 := 0
  format : UInt8 := 0
  deriving DecidableEq

namespace AudioCluster

/-- The 83 octets of the body. -/
def layout : Layout AudioCluster :=
  .iso (Layout.text.pair <| Layout.word16.pair <| Layout.word16.pair <| Layout.word16.pair <|
      Layout.word16.pair <| Layout.word32.pair <| Layout.word32.pair <|
      Layout.word16.pair Layout.word8)
    (fun (objectName, localizedDescription, signalType, signalIndex, signalOutput, pathLatency,
        blockLatency, channelCount, format) =>
      { objectName, localizedDescription, signalType, signalIndex, signalOutput, pathLatency,
        blockLatency, channelCount, format })
    (fun c => (c.objectName, c.localizedDescription, c.signalType, c.signalIndex, c.signalOutput,
      c.pathLatency, c.blockLatency, c.channelCount, c.format))

/-- The fields in documents. -/
def schema : Schema AudioCluster where
  blank := {}
  fields := [
    .of "object_name" .text (·.objectName) ({ · with objectName := · }),
    .of "localized_description" .word16 (·.localizedDescription)
      ({ · with localizedDescription := · }),
    .of "signal_type" .word16 (·.signalType) ({ · with signalType := · }),
    .of "signal_index" .word16 (·.signalIndex) ({ · with signalIndex := · }),
    .of "signal_output" .word16 (·.signalOutput) ({ · with signalOutput := · }),
    .of "path_latency" .word32 (·.pathLatency) ({ · with pathLatency := · }),
    .of "block_latency" .word32 (·.blockLatency) ({ · with blockLatency := · }),
    .of "channel_count" .word16 (·.channelCount) ({ · with channelCount := · }),
    .of "format" .word8 (·.format) ({ · with format := · })]

end AudioCluster

/-- The body of a VIDEO_CLUSTER descriptor. -/
structure VideoCluster where
  objectName : String := ""
  localizedDescription : UInt16 := 0
  signalType : UInt16 := 0
  signalIndex : UInt16 := 0
  signalOutput : UInt16 := 0
  pathLatency : UInt32 := 0
  blockLatency : UInt32 := 0
  format : UInt8 := 0
  currentFormatSpecific : UInt32 := 0
  supportedFormatSpecifics : List UInt32 := []
  currentSamplingRate : UInt32 := 0
  supportedSamplingRates : List UInt32 := []
  currentAspectRatio : UInt16 := 0
  supportedAspectRatios : List UInt16 := []
  currentSize : UInt32 := 0
  supportedSizes : List UInt32 := []
  currentColorSpace : UInt16 := 0
  supportedColorSpaces : List UInt16 := []
  deriving DecidableEq

namespace VideoCluster

/-- A current value with the offset and the number of the supported ones. -/
def choice {α : Type} (l : Layout α) : Layout (α × UInt16 × UInt16) :=
  l.pair <| Layout.word16.pair Layout.word16

/-- The fixed part: the signal, and the five choices. -/
def head : Layout ((String × UInt16 × UInt16 × UInt16 × UInt16 × UInt32 × UInt32 × UInt8) ×
    (UInt32 × UInt16 × UInt16) × (UInt32 × UInt16 × UInt16) × (UInt16 × UInt16 × UInt16) ×
    (UInt32 × UInt16 × UInt16) × (UInt16 × UInt16 × UInt16)) :=
  (Layout.text.pair <| Layout.word16.pair <| Layout.word16.pair <| Layout.word16.pair <|
    Layout.word16.pair <| Layout.word32.pair <| Layout.word32.pair Layout.word8).pair <|
  (choice .word32).pair <| (choice .word32).pair <| (choice .word16).pair <|
  (choice .word32).pair <| choice .word16

/-- Where the first array starts. -/
def arraysOffset : Nat :=
  headWidth + head.width

/-- Where the second to the fifth array start. -/
def ratesOffset (c : VideoCluster) : Nat :=
  arraysOffset + 4 * c.supportedFormatSpecifics.length

@[inherit_doc ratesOffset]
def ratiosOffset (c : VideoCluster) : Nat :=
  c.ratesOffset + 4 * c.supportedSamplingRates.length

@[inherit_doc ratesOffset]
def sizesOffset (c : VideoCluster) : Nat :=
  c.ratiosOffset + 2 * c.supportedAspectRatios.length

@[inherit_doc ratesOffset]
def spacesOffset (c : VideoCluster) : Nat :=
  c.sizesOffset + 4 * c.supportedSizes.length

/-- The octets of the body. -/
def write (c : VideoCluster) : Octets :=
  head.write ((c.objectName, c.localizedDescription, c.signalType, c.signalIndex, c.signalOutput,
      c.pathLatency, c.blockLatency, c.format),
    (c.currentFormatSpecific, offsetWord arraysOffset, countWord c.supportedFormatSpecifics),
    (c.currentSamplingRate, offsetWord c.ratesOffset, countWord c.supportedSamplingRates),
    (c.currentAspectRatio, offsetWord c.ratiosOffset, countWord c.supportedAspectRatios),
    (c.currentSize, offsetWord c.sizesOffset, countWord c.supportedSizes),
    (c.currentColorSpace, offsetWord c.spacesOffset, countWord c.supportedColorSpaces)) ++
  Layout.word32.writeArray c.supportedFormatSpecifics ++
  Layout.word32.writeArray c.supportedSamplingRates ++
  Layout.word16.writeArray c.supportedAspectRatios ++
  Layout.word32.writeArray c.supportedSizes ++
  Layout.word16.writeArray c.supportedColorSpaces

/-- The body at the start of octets. The five arrays are read one after another, by their numbers
of entries, before any of the offsets is checked. -/
def parse (bs : Octets) : Except DecodeError VideoCluster := do
  let ((objectName, localizedDescription, signalType, signalIndex, signalOutput, pathLatency,
      blockLatency, format),
    (currentFormatSpecific, foundSpecifics, specifics),
    (currentSamplingRate, foundRates, rates),
    (currentAspectRatio, foundRatios, ratios),
    (currentSize, foundSizes, sizes),
    (currentColorSpace, foundSpaces, spaces)) ← head.parse bs
  let (supportedFormatSpecifics, bs) ←
    Layout.word32.parseArray specifics (bs.drop head.width)
  let (supportedSamplingRates, bs) ← Layout.word32.parseArray rates bs
  let (supportedAspectRatios, bs) ← Layout.word16.parseArray ratios bs
  let (supportedSizes, bs) ← Layout.word32.parseArray sizes bs
  let (supportedColorSpaces, _) ← Layout.word16.parseArray spaces bs
  let c : VideoCluster :=
    { objectName, localizedDescription, signalType, signalIndex, signalOutput, pathLatency,
      blockLatency, format, currentFormatSpecific, supportedFormatSpecifics, currentSamplingRate,
      supportedSamplingRates, currentAspectRatio, supportedAspectRatios, currentSize,
      supportedSizes, currentColorSpace, supportedColorSpaces }
  checkOffset "format_specifics_offset" foundSpecifics arraysOffset
  checkOffset "sampling_rates_offset" foundRates c.ratesOffset
  checkOffset "aspect_ratios_offset" foundRatios c.ratiosOffset
  checkOffset "sizes_offset" foundSizes c.sizesOffset
  checkOffset "color_spaces_offset" foundSpaces c.spacesOffset
  return c

/-- The fields in documents. -/
def schema : Schema VideoCluster where
  blank := {}
  fields := [
    .of "object_name" .text (·.objectName) ({ · with objectName := · }),
    .of "localized_description" .word16 (·.localizedDescription)
      ({ · with localizedDescription := · }),
    .of "signal_type" .word16 (·.signalType) ({ · with signalType := · }),
    .of "signal_index" .word16 (·.signalIndex) ({ · with signalIndex := · }),
    .of "signal_output" .word16 (·.signalOutput) ({ · with signalOutput := · }),
    .of "path_latency" .word32 (·.pathLatency) ({ · with pathLatency := · }),
    .of "block_latency" .word32 (·.blockLatency) ({ · with blockLatency := · }),
    .of "format" .word8 (·.format) ({ · with format := · }),
    .of "current_format_specific" .word32 (·.currentFormatSpecific)
      ({ · with currentFormatSpecific := · }),
    .of "supported_format_specifics" (.list .word32) (·.supportedFormatSpecifics)
      ({ · with supportedFormatSpecifics := · }),
    .of "current_sampling_rate" .word32 (·.currentSamplingRate)
      ({ · with currentSamplingRate := · }),
    .of "supported_sampling_rates" (.list .word32) (·.supportedSamplingRates)
      ({ · with supportedSamplingRates := · }),
    .of "current_aspect_ratio" .word16 (·.currentAspectRatio)
      ({ · with currentAspectRatio := · }),
    .of "supported_aspect_ratios" (.list .word16) (·.supportedAspectRatios)
      ({ · with supportedAspectRatios := · }),
    .of "current_size" .word32 (·.currentSize) ({ · with currentSize := · }),
    .of "supported_sizes" (.list .word32) (·.supportedSizes) ({ · with supportedSizes := · }),
    .of "current_color_space" .word16 (·.currentColorSpace) ({ · with currentColorSpace := · }),
    .of "supported_color_spaces" (.list .word16) (·.supportedColorSpaces)
      ({ · with supportedColorSpaces := · })]

end VideoCluster

end AvbEntity.Descriptor

/-!
# Kinds of descriptors

The standard numbers the kinds of descriptors of the entity model from zero. An entity lists
descriptors of every kind, but serves only those whose layout is known.

## Main definitions

* `Kind`: the kinds, in the order of their numbers
* `Kind.code`, `Kind.ofCode?`: the type code of a kind
* `Kind.name`, `Kind.label`: the name in the standard, and in documents
* `Kind.hasLayout`: descriptors of the kind are written and read

## Main results

* `Kind.all_getElem_code`: the list of kinds has each kind at its code
-/

namespace AvbEntity

/-- The kinds of descriptors. -/
inductive Kind where
  | entity
  | configuration
  | audioUnit
  | videoUnit
  | sensorUnit
  | streamInput
  | streamOutput
  | jackInput
  | jackOutput
  | avbInterface
  | clockSource
  | memoryObject
  | locale
  | strings
  | streamPortInput
  | streamPortOutput
  | externalPortInput
  | externalPortOutput
  | internalPortInput
  | internalPortOutput
  | audioCluster
  | videoCluster
  | sensorCluster
  | audioMap
  | videoMap
  | sensorMap
  | control
  | signalSelector
  | mixer
  | matrix
  | matrixSignal
  | signalSplitter
  | signalCombiner
  | signalDemultiplexer
  | signalMultiplexer
  | signalTranscoder
  | clockDomain
  | controlBlock
  deriving DecidableEq

namespace Kind

/-- The kinds in the order of their type codes. -/
def all : List Kind :=
  [entity, configuration, audioUnit, videoUnit, sensorUnit, streamInput, streamOutput, jackInput,
   jackOutput, avbInterface, clockSource, memoryObject, locale, strings, streamPortInput,
   streamPortOutput, externalPortInput, externalPortOutput, internalPortInput, internalPortOutput,
   audioCluster, videoCluster, sensorCluster, audioMap, videoMap, sensorMap, control,
   signalSelector, mixer, matrix, matrixSignal, signalSplitter, signalCombiner,
   signalDemultiplexer, signalMultiplexer, signalTranscoder, clockDomain, controlBlock]

/-- The type code of the kind. -/
def code (k : Kind) : UInt16 :=
  .ofNat k.ctorIdx

/-- The kind of a type code. -/
def ofCode? (n : UInt16) : Option Kind :=
  all[n.toNat]?

theorem all_getElem_code (k : Kind) : all[k.code.toNat]? = some k := by
  cases k <;> rfl

/-- The name of the kind in the standard. -/
def name : Kind → String
  | .entity => "ENTITY"
  | .configuration => "CONFIGURATION"
  | .audioUnit => "AUDIO_UNIT"
  | .videoUnit => "VIDEO_UNIT"
  | .sensorUnit => "SENSOR_UNIT"
  | .streamInput => "STREAM_INPUT"
  | .streamOutput => "STREAM_OUTPUT"
  | .jackInput => "JACK_INPUT"
  | .jackOutput => "JACK_OUTPUT"
  | .avbInterface => "AVB_INTERFACE"
  | .clockSource => "CLOCK_SOURCE"
  | .memoryObject => "MEMORY_OBJECT"
  | .locale => "LOCALE"
  | .strings => "STRINGS"
  | .streamPortInput => "STREAM_PORT_INPUT"
  | .streamPortOutput => "STREAM_PORT_OUTPUT"
  | .externalPortInput => "EXTERNAL_PORT_INPUT"
  | .externalPortOutput => "EXTERNAL_PORT_OUTPUT"
  | .internalPortInput => "INTERNAL_PORT_INPUT"
  | .internalPortOutput => "INTERNAL_PORT_OUTPUT"
  | .audioCluster => "AUDIO_CLUSTER"
  | .videoCluster => "VIDEO_CLUSTER"
  | .sensorCluster => "SENSOR_CLUSTER"
  | .audioMap => "AUDIO_MAP"
  | .videoMap => "VIDEO_MAP"
  | .sensorMap => "SENSOR_MAP"
  | .control => "CONTROL"
  | .signalSelector => "SIGNAL_SELECTOR"
  | .mixer => "MIXER"
  | .matrix => "MATRIX"
  | .matrixSignal => "MATRIX_SIGNAL"
  | .signalSplitter => "SIGNAL_SPLITTER"
  | .signalCombiner => "SIGNAL_COMBINER"
  | .signalDemultiplexer => "SIGNAL_DEMULTIPLEXER"
  | .signalMultiplexer => "SIGNAL_MULTIPLEXER"
  | .signalTranscoder => "SIGNAL_TRANSCODER"
  | .clockDomain => "CLOCK_DOMAIN"
  | .controlBlock => "CONTROL_BLOCK"

/-- The name of the kind in documents. -/
def label : Kind → String
  | .entity => "entity"
  | .configuration => "configuration"
  | .audioUnit => "audio_unit"
  | .videoUnit => "video_unit"
  | .sensorUnit => "sensor_unit"
  | .streamInput => "stream_input"
  | .streamOutput => "stream_output"
  | .jackInput => "jack_input"
  | .jackOutput => "jack_output"
  | .avbInterface => "avb_interface"
  | .clockSource => "clock_source"
  | .memoryObject => "memory_object"
  | .locale => "locale"
  | .strings => "strings"
  | .streamPortInput => "stream_port_input"
  | .streamPortOutput => "stream_port_output"
  | .externalPortInput => "external_port_input"
  | .externalPortOutput => "external_port_output"
  | .internalPortInput => "internal_port_input"
  | .internalPortOutput => "internal_port_output"
  | .audioCluster => "audio_cluster"
  | .videoCluster => "video_cluster"
  | .sensorCluster => "sensor_cluster"
  | .audioMap => "audio_map"
  | .videoMap => "video_map"
  | .sensorMap => "sensor_map"
  | .control => "control"
  | .signalSelector => "signal_selector"
  | .mixer => "mixer"
  | .matrix => "matrix"
  | .matrixSignal => "matrix_signal"
  | .signalSplitter => "signal_splitter"
  | .signalCombiner => "signal_combiner"
  | .signalDemultiplexer => "signal_demultiplexer"
  | .signalMultiplexer => "signal_multiplexer"
  | .signalTranscoder => "signal_transcoder"
  | .clockDomain => "clock_domain"
  | .controlBlock => "control_block"

/-- The kind of a name in documents. -/
def ofLabel? (s : String) : Option Kind :=
  all.find? (·.label == s)

/-- Descriptors of the kind are written and read. -/
def hasLayout : Kind → Bool
  | .entity | .configuration | .audioUnit | .videoUnit | .streamInput | .streamOutput | .jackInput
  | .jackOutput | .avbInterface | .clockSource | .locale | .strings | .streamPortInput
  | .streamPortOutput | .audioCluster | .videoCluster | .audioMap | .videoMap | .clockDomain => true
  | _ => false

end Kind

end AvbEntity

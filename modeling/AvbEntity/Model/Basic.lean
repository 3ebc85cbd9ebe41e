import AvbEntity.Descriptor.Basic
import AvbEntity.Model.Stream

/-!
# The entity model

What the entity shows to controllers: its ENTITY descriptor and its configurations, each with its
descriptors and the states of its streams. A stream is named by its position among the stream
descriptors of its direction.

## Main definitions

* `Configuration`, `Model`: the model
* `Model.find?`: the descriptor that a controller asks for
* `Model.sink?`, `Model.source?`, `Model.modifySink`, `Model.modifySource`: the stream states
* `Model.resetStreams`: all stream states as at the start
-/

namespace AvbEntity

open Descriptor (Entity Summary)

/-- A bundle of descriptors, and the states of its streams. -/
structure Configuration where
  /-- The index of the CONFIGURATION descriptor. -/
  index : UInt16
  /-- The body of the CONFIGURATION descriptor. -/
  summary : Summary
  descriptors : List Descriptor
  sinks : List Sink := []
  sources : List Source := []
  deriving DecidableEq

namespace Configuration

/-- The number of descriptors of a kind, of which 16 bits are kept. -/
def count (c : Configuration) (kind : Kind) : UInt16 :=
  .ofNat (c.descriptors.countP (·.kind == kind))

/-- The configuration with every stream as at the start. -/
def resetStreams (c : Configuration) : Configuration :=
  { c with
    sinks := (List.range (c.count .streamInput).toNat).map fun i => .fresh (.ofNat i)
    sources := (List.range (c.count .streamOutput).toNat).map fun i => .fresh (.ofNat i) }

end Configuration

/-- The entity and its configurations. -/
structure Model where
  entity : Entity
  configurations : List Configuration
  deriving DecidableEq

namespace Model

/-- The identifier of the entity. -/
def entityId (m : Model) : Eui64 :=
  m.entity.entityId

/-- The position of the configuration in use. -/
def current (m : Model) : UInt16 :=
  m.entity.currentConfiguration

/-- The configuration at a position. -/
def configuration? (m : Model) (index : UInt16) : Option Configuration :=
  m.configurations[index.toNat]?

/-- The descriptor that a controller asks for. There is one ENTITY; a CONFIGURATION is named by its
position, and every other descriptor by its configuration, its kind and its index. -/
def find? (m : Model) (configuration : UInt16) (kind : Kind) (index : UInt16) :
    Option Descriptor :=
  match kind with
  | .entity => if index = 0 then some (.entity m.entity) else none
  | .configuration =>
    (m.configuration? index).map fun c => .numbered c.index (.configuration c.summary)
  | kind => do
    let c ← m.configuration? configuration
    c.descriptors.find? fun d => d.kind == kind && d.index == index

/-- The state of a stream input. -/
def sink? (m : Model) (configuration uniqueId : UInt16) : Option Sink := do
  let c ← m.configuration? configuration
  c.sinks[uniqueId.toNat]?

/-- The state of a stream output. -/
def source? (m : Model) (configuration uniqueId : UInt16) : Option Source := do
  let c ← m.configuration? configuration
  c.sources[uniqueId.toNat]?

/-- The model with one configuration changed. -/
def modify (m : Model) (configuration : UInt16) (f : Configuration → Configuration) : Model :=
  { m with configurations := m.configurations.modify configuration.toNat f }

/-- The model with the state of one stream input changed. -/
def modifySink (m : Model) (configuration uniqueId : UInt16) (f : Sink → Sink) : Model :=
  m.modify configuration fun c => { c with sinks := c.sinks.modify uniqueId.toNat f }

/-- The model with the state of one stream output changed. -/
def modifySource (m : Model) (configuration uniqueId : UInt16) (f : Source → Source) : Model :=
  m.modify configuration fun c => { c with sources := c.sources.modify uniqueId.toNat f }

/-- The model with every stream as at the start. -/
def resetStreams (m : Model) : Model :=
  { m with configurations := m.configurations.map (·.resetStreams) }

end Model

end AvbEntity

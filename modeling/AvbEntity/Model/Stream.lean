import AvbEntity.Identifier.Eui64

/-!
# Stream states

What is remembered of each stream input and output while connections come and go. A stream input
is a sink with at most one source; a stream output is a source with any number of listeners, the
same one perhaps several times.

## Main definitions

* `Sink`: the state of a stream input; `Sink.fresh`, `Sink.isBoundTo`, `Sink.clear`
* `Listener`: a stream input of any entity
* `Source`: the state of a stream output; `Source.fresh`, `Source.connect`, `Source.disconnect`,
  `Source.connection?`
-/

namespace AvbEntity

/-- The state of a stream input. -/
structure Sink where
  /-- The number of the stream input. -/
  listenerUniqueId : UInt16
  connected : Bool := false
  talkerEntityId : Eui64 := .zero
  talkerUniqueId : UInt16 := 0
  streamId : Eui64 := .zero
  streamDestMac : Mac := .zero
  controllerEntityId : Eui64 := .zero
  flags : UInt16 := 0
  streamVlanId : UInt16 := 0
  deriving DecidableEq

namespace Sink

/-- A stream input that was never connected. -/
def fresh (uniqueId : UInt16) : Sink :=
  { listenerUniqueId := uniqueId }

/-- The stream input is connected to exactly this stream output. -/
def isBoundTo (s : Sink) (talkerEntityId : Eui64) (talkerUniqueId : UInt16) : Bool :=
  s.connected && s.talkerEntityId == talkerEntityId && s.talkerUniqueId == talkerUniqueId

/-- The stream input as it was before it was ever connected. -/
def clear (s : Sink) : Sink :=
  fresh s.listenerUniqueId

end Sink

/-- A stream input of an entity. -/
structure Listener where
  entityId : Eui64
  uniqueId : UInt16
  deriving DecidableEq

/-- The state of a stream output. -/
structure Source where
  /-- The number of the stream output. -/
  talkerUniqueId : UInt16
  streamId : Eui64 := .zero
  streamDestMac : Mac := .zero
  streamVlanId : UInt16 := 0
  /-- The number of connections. -/
  connectionCount : UInt16 := 0
  /-- The connected listeners, in the order of their connection. -/
  listeners : List Listener := []
  deriving DecidableEq

namespace Source

/-- A stream output without identity and without listeners. -/
def fresh (uniqueId : UInt16) : Source :=
  { talkerUniqueId := uniqueId }

/-- The source with one more connection; there is none once the counter cannot grow. -/
def connect (s : Source) (l : Listener) : Option Source :=
  if s.connectionCount.toNat + 1 < UInt16.size then
    some { s with connectionCount := s.connectionCount + 1, listeners := s.listeners ++ [l] }
  else none

/-- The source without the first connection of a listener; there is none if it has none. -/
def disconnect (s : Source) (l : Listener) : Option Source :=
  if s.listeners.contains l then
    some { s with
      connectionCount := .ofNat (s.connectionCount.toNat - 1)
      listeners := s.listeners.erase l }
  else none

/-- The listener of a connection, counted from zero. -/
def connection? (s : Source) (index : UInt16) : Option Listener :=
  s.listeners[index.toNat]?

/-- The source under another published identity. -/
def publish (s : Source) (streamId : Eui64) (streamDestMac : Mac) (streamVlanId : UInt16) :
    Source :=
  { s with streamId, streamDestMac, streamVlanId }

end Source

end AvbEntity

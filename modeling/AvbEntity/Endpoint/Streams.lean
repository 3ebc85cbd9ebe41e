import AvbEntity.Endpoint.Basic

/-!
# The streams of an endpoint

What the application that runs an entity asks of its streams, and tells about them.

## Main definitions

* `StreamError`: a stream that the entity does not have
* `Endpoint.connectionCount`, `Endpoint.isConnected`, `Endpoint.streamId`: the state of a stream
* `Endpoint.publish`: the identity of a stream output
-/

namespace AvbEntity

/-- A stream that the entity does not have. -/
inductive StreamError where
  | noOutput (configuration uniqueId : UInt16)
  | noInput (configuration uniqueId : UInt16)
  deriving DecidableEq

namespace StreamError

/-- The stream that was asked for. -/
def place (configuration uniqueId : UInt16) : String :=
  "with unique id " ++ toString uniqueId.toNat ++ " in configuration " ++
    toString configuration.toNat

/-- The wording of the error. -/
def message : StreamError → String
  | .noOutput configuration uniqueId => "No stream output " ++ place configuration uniqueId
  | .noInput configuration uniqueId => "No stream input " ++ place configuration uniqueId

end StreamError

namespace Endpoint

/-- The state of a stream output. -/
def source (e : Endpoint) (configuration uniqueId : UInt16) : Except StreamError Source :=
  match e.model.source? configuration uniqueId with
  | some s => .ok s
  | none => .error (.noOutput configuration uniqueId)

/-- The state of a stream input. -/
def sink (e : Endpoint) (configuration uniqueId : UInt16) : Except StreamError Sink :=
  match e.model.sink? configuration uniqueId with
  | some s => .ok s
  | none => .error (.noInput configuration uniqueId)

/-- The number of connections of a stream output. -/
def connectionCount (e : Endpoint) (configuration uniqueId : UInt16) : Except StreamError UInt16 :=
  (·.connectionCount) <$> e.source configuration uniqueId

/-- A stream input is connected. -/
def isConnected (e : Endpoint) (configuration uniqueId : UInt16) : Except StreamError Bool :=
  (·.connected) <$> e.sink configuration uniqueId

/-- The stream that a stream input is connected to, zero if it is not. -/
def streamId (e : Endpoint) (configuration uniqueId : UInt16) : Except StreamError Eui64 :=
  (·.streamId) <$> e.sink configuration uniqueId

/-- The endpoint with the state of a stream output changed. -/
def modifySource (e : Endpoint) (configuration uniqueId : UInt16) (f : Source → Source) :
    Except StreamError Endpoint := do
  let _ ← e.source configuration uniqueId
  return { e with model := e.model.modifySource configuration uniqueId f }

/-- The endpoint whose stream output has an identity. -/
def publish (e : Endpoint) (configuration uniqueId : UInt16) (streamId : Eui64)
    (streamDestMac : Mac) (streamVlanId : UInt16) : Except StreamError Endpoint :=
  e.modifySource configuration uniqueId (·.publish streamId streamDestMac streamVlanId)

end Endpoint

end AvbEntity

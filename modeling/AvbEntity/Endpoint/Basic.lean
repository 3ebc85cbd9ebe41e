import AvbEntity.Connection.Manager
import AvbEntity.Discovery.Advertiser
import AvbEntity.Enumeration.Responder
import AvbEntity.Ethernet.Frame

/-!
# The endpoint

The endpoint puts the three protocols together. A frame goes to the protocol of its payload, and a
tick to all of them; a frame that is not understood is dropped. Each step is a function that
returns the frames to send in turn, whether or not they will reach the network. Only whether the
first of them does can change the course of a step.

## Main definitions

* `Endpoint`, `Endpoint.start`: the state of an entity
* `Endpoint.receive`, `Endpoint.tick`: the two kinds of steps
* `Endpoint.iterate`: one turn of the loop that an entity runs
-/

namespace AvbEntity

open Connection (Manager)
open Discovery (Advertiser)
open Enumeration (Responder)

/-- The settings of an endpoint. -/
structure Options where
  /-- The longest wait for a frame between two ticks. -/
  pollInterval : Time := 1000
  /-- The announced lifetime in seconds. -/
  validTime : UInt8 := 31
  /-- The number of commands that may wait for a talker. -/
  inFlightCapacity : Nat := 4
  deriving DecidableEq

/-- The state of an entity on the network. -/
structure Endpoint where
  model : Model
  advertiser : Advertiser
  responder : Responder := {}
  connections : Manager
  /-- Connection management is running. -/
  acmpStarted : Bool := false
  deriving DecidableEq

namespace Endpoint

/-- An entity before its first step. -/
def start (model : Model) (role : Role) (options : Options) (linkUp : Bool) : Endpoint :=
  { model
    advertiser := .start options.validTime linkUp
    connections := .start role options.inFlightCapacity }

/-- The endpoint with connection management running or not. -/
def setAcmpStarted (e : Endpoint) (started : Bool) : Endpoint :=
  { e with acmpStarted := started }

/-- The endpoint that knows of a clock grandmaster. -/
def setGrandmaster (e : Endpoint) (id : Eui64) : Endpoint :=
  { e with advertiser := e.advertiser.setGrandmaster id }

/-- The endpoint that will ask for other entities at the next tick. -/
def requestDiscover (e : Endpoint) : Endpoint :=
  { e with advertiser := e.advertiser.requestDiscover }

/-- The endpoint that will announce its leaving at the next tick. -/
def requestDepart (e : Endpoint) : Endpoint :=
  { e with advertiser := e.advertiser.requestDepart }

/-- The endpoint with every stream as at the start. -/
def resetStreams (e : Endpoint) : Endpoint :=
  { e with model := e.model.resetStreams }

/-- A discovery PDU on its way to the group. -/
def announce (p : Discovery.Pdu) : Outgoing :=
  ⟨.discoveryGroup, p.encode⟩

/-- A connection management PDU on its way to the group. -/
def multicast (p : Connection.Pdu) : Outgoing :=
  ⟨.discoveryGroup, p.encode⟩

/-- A control frame handed to the protocol of its payload. -/
def route (e : Endpoint) (frame : Frame) (now : Time) (accepted : Bool) :
    Except DecodeError (Endpoint × List Outgoing) := do
  match ← peekSubtype frame.payload with
  | .adp =>
    let p ← Discovery.Pdu.decode frame.payload
    return ({ e with advertiser := e.advertiser.hear e.model.entityId p }, [])
  | .aecp =>
    let (responder, response) ← e.responder.handle e.model frame.payload
    return ({ e with responder }, response.toList.map (⟨frame.src, ·⟩))
  | .acmp =>
    if e.acmpStarted then
      let p ← Connection.Pdu.decode frame.payload
      let (connections, model, sent) := e.connections.handle e.model p now accepted
      return ({ e with connections, model }, sent.map multicast)
    else return (e, [])

/-- A frame received: the endpoint after it, and the frames to send in turn. The first of them is
`accepted` by the network or not. -/
def receive (e : Endpoint) (frame : Frame) (now : Time) (accepted : Bool) :
    Endpoint × List Outgoing :=
  if frame.isControl then
    match e.route frame now accepted with
    | .ok result => result
    | .error _ => (e, [])
  else (e, [])

/-- A tick, with the state of the link unless it is unknown: the endpoint after it, and the frames
to send in turn. -/
def tick (e : Endpoint) (now : Time) (link : Option Bool) : Endpoint × List Outgoing :=
  let (advertiser, announced) := e.advertiser.tick e.model.entity now link
  let (connections, sent) := if e.acmpStarted then e.connections.tick now else (e.connections, [])
  ({ e with advertiser, connections }, announced.map announce ++ sent.map multicast)

end Endpoint

/-- What the wait for a frame came to. -/
inductive Reception where
  | frame (frame : Frame)
  /-- No frame came in time. -/
  | silence
  /-- The wait failed, but may succeed the next time. -/
  | failure
  /-- No frame can come any more. -/
  | closed
  deriving DecidableEq

/-- What a turn of the loop meets. -/
structure Surroundings where
  now : Time
  /-- The state of the link, unless it is unknown. -/
  link : Option Bool
  /-- The network accepts the first frame of the turn. -/
  accepted : Bool
  deriving DecidableEq

namespace Endpoint

/-- The turn in which the loop is told to halt, or finds that no frame can come, is the last. -/
def isLast (halt : Bool) (reception : Reception) : Bool :=
  halt || reception == .closed

/-- The reception of one turn; once the loop is told to halt it waits for no frame. -/
def accept (e : Endpoint) (halt : Bool) (reception : Reception) (s : Surroundings) :
    Endpoint × List Outgoing :=
  match reception with
  | .frame frame => if halt then (e, []) else e.receive frame s.now s.accepted
  | _ => (e, [])

/-- One turn of the loop: a frame, if one came, and then a tick. The last turn announces the
leaving. -/
def iterate (e : Endpoint) (halt : Bool) (reception : Reception) (s : Surroundings) :
    Endpoint × List Outgoing :=
  let (e, answers) := e.accept halt reception s
  let e := if isLast halt reception then e.requestDepart else e
  let (e, ticked) := e.tick s.now s.link
  (e, answers ++ ticked)

end Endpoint

end AvbEntity

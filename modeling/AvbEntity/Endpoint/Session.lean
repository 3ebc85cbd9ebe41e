import AvbEntity.Endpoint.Streams
import AvbEntity.Ethernet.Link
import AvbEntity.Model.Build

/-!
# Sessions

A session is an endpoint on a link. Its steps are those of the endpoint, with what the link says
and accepts; of the frames that a step sends, those that the link accepts come out.

## Main definitions

* `Session`, `Session.receive`, `Session.tick`: an endpoint on a link, and its steps
* `Session.receiveRepeated`: the same frame several times
* `Monitor`, `Monitor.start`: a session run by a loop that can end
* `Monitor.turn`, `Monitor.halt`: a turn of the loop, and its end
-/

namespace AvbEntity

/-- An endpoint on a link. -/
structure Session where
  endpoint : Endpoint
  link : Link
  deriving DecidableEq

namespace Session

/-- The outcome of a step of the endpoint on the link. -/
def transmit (s : Session) (step : Endpoint × List Outgoing) : Session × List Outgoing :=
  let (link, passed) := s.link.transmit step.2
  ({ endpoint := step.1, link }, passed)

/-- A frame received. -/
def receive (s : Session) (frame : Frame) (now : Time) : Session × List Outgoing :=
  s.transmit (s.endpoint.receive frame now s.link.accepts)

/-- A frame received several times. -/
def receiveRepeated (s : Session) (frame : Frame) (now : Time) (count : Nat) :
    Session × List Outgoing :=
  let step := fun ((s, passed) : Session × List (List Outgoing)) =>
    let (s, more) := s.receive frame now
    (s, if more.isEmpty then passed else more :: passed)
  let (s, passed) := count.repeat step (s, [])
  (s, passed.reverse.flatten)

/-- A tick. -/
def tick (s : Session) (now : Time) : Session × List Outgoing :=
  s.transmit (s.endpoint.tick now s.link.up)

/-- A turn of the loop. -/
def iterate (s : Session) (halt : Bool) (reception : Reception) (now : Time) :
    Session × List Outgoing :=
  s.transmit (s.endpoint.iterate halt reception ⟨now, s.link.up, s.link.accepts⟩)

/-- The session with the endpoint changed. -/
def modify (s : Session) (f : Endpoint → Endpoint) : Session :=
  { s with endpoint := f s.endpoint }

end Session

/-- Why an entity does not start, or an application is not answered. -/
inductive Fault where
  | build (fault : BuildError)
  | stream (fault : StreamError)
  | transport (fault : TransportError)
  deriving DecidableEq

/-- The wording of the error. -/
def Fault.message : Fault → String
  | .build fault => "Entity model error: " ++ fault.message
  | .stream fault => "Entity model error: " ++ fault.message
  | .transport fault => "Transport error: " ++ fault.message

/-- A session run by a loop. -/
structure Monitor where
  session : Session
  /-- The loop has not ended. -/
  running : Bool := true
  deriving DecidableEq

namespace Monitor

/-- A loop before its first turn. The model has to be built and the state of the link known. -/
def start (tree : Tree) (mac : Mac) (role : Role) (options : Options)
    (link : Except TransportError Bool) : Except Fault Monitor := do
  let model ← (Model.build tree mac).mapError .build
  let linkUp ← link.mapError .transport
  return { session := ⟨.start model role options linkUp, { up := some linkUp }⟩ }

/-- A turn of the loop, unless it has ended. -/
def turn (m : Monitor) (halt : Bool) (reception : Reception) (now : Time) :
    Monitor × List Outgoing :=
  if m.running then
    let (session, sent) := m.session.iterate halt reception now
    ({ session, running := !Endpoint.isLast halt reception }, sent)
  else (m, [])

/-- The end of the loop: the turn that waits for a frame ends without one, and the next halts. -/
def halt (m : Monitor) (now : Time) : Monitor × List Outgoing :=
  let (m, waited) := m.turn false .silence now
  let (m, last) := m.turn true .silence now
  (m, waited ++ last)

end Monitor

end AvbEntity

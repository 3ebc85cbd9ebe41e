import AvbEntity.Connection.InFlight
import AvbEntity.Model.Basic

/-!
# The relay of a listener

A controller asks a listener to connect one of its stream inputs to a talker. The listener passes
the command on to the talker under a sequence number of its own, and answers the controller when
the talker has answered, or when the talker was asked twice in vain.

## Main definitions

* `Relay`, `Relay.start`: the commands in flight and the next sequence number
* `Relay.request`: a controller's command, refused or passed on
* `Relay.settle`: the talker's answer, passed back
* `Relay.handle`: a PDU handled
* `Relay.tick`: commands sent again or given up
-/

namespace AvbEntity

open Connection (Pdu Status)

/-- The stream input connected as the talker answered, unless it is connected already. -/
def Sink.bind (s : Sink) (p : Pdu) : Sink × Status :=
  if s.connected then (s, .listenerExclusive)
  else
    ({ s with
        connected := true
        talkerEntityId := p.talkerEntityId
        talkerUniqueId := p.talkerUniqueId
        streamId := p.streamId
        streamDestMac := p.streamDestMac
        controllerEntityId := p.controllerEntityId
        flags := p.flags
        streamVlanId := p.streamVlanId },
      .success)

/-- The stream input disconnected, if it is connected to the stream output of the answer. -/
def Sink.unbind (s : Sink) (p : Pdu) : Sink × Status :=
  if s.isBoundTo p.talkerEntityId p.talkerUniqueId then (s.clear, .success)
  else (s, .listenerMisbehaving)

namespace Connection

/-- The exchange with the controller that an exchange with the talker serves. -/
def Exchange.ofController : Exchange → Exchange
  | .disconnectTx => .disconnectRx
  | _ => .connectRx

/-- The answer to the controller when the talker does not answer. -/
def Entry.giveUp (e : Entry) : Pdu :=
  { e.command with
    messageType := .response e.command.messageType.exchange.ofController
    status := .listenerTalkerTimeout
    sequenceId := e.controllerSequenceId }

/-- What a tick makes of a command in flight, and what it sends: after its deadline a command is
sent once more, and then given up. -/
def Entry.tick (now : Time) (e : Entry) : Option Entry × Option Pdu :=
  -- the deadline itself is too late
  if now < e.deadline then (some e, none)
  else if e.retried then (none, some e.giveUp)
  else (some (e.retry (now + e.command.messageType.timeout)), some e.command)

/-- The listener's side of connection management. -/
structure Relay where
  inFlight : InFlight
  /-- The sequence number of the next command to a talker. -/
  nextSequenceId : UInt16 := 0
  deriving DecidableEq

namespace Relay

/-- No command in flight. -/
def start (capacity : Nat) : Relay :=
  { inFlight := .empty capacity }

/-- A command as it is passed on to the talker. -/
def outgoing (r : Relay) (p : Pdu) (exchange : Exchange) : Pdu :=
  { p with
    messageType := .command exchange
    status := .success
    sequenceId := r.nextSequenceId }

/-- A command passed on to the talker. It needs a free slot, and the network has to accept it. -/
def forward (r : Relay) (p : Pdu) (exchange : Exchange) (now : Time) (accepted : Bool) :
    Relay × List Pdu :=
  let command := r.outgoing p exchange
  let entry : Entry :=
    { command, controllerSequenceId := p.sequenceId, deadline := now + exchange.timeout }
  match r.inFlight.insert entry with
  | none => (r, [p.respond .listenerMisbehaving])
  | some (inFlight, _) =>
    let nextSequenceId := r.nextSequenceId + 1
    if accepted then ({ inFlight, nextSequenceId }, [command])
    -- the slot is free again, but the sequence number is used up
    else ({ r with nextSequenceId }, [command, p.respond .couldNotSendMessage])

/-- Why a command on a stream input is refused, if it is. -/
def refusal (s : Sink) (p : Pdu) (exchange : Exchange) : Option Status :=
  match exchange with
  | .disconnectTx =>
    if s.isBoundTo p.talkerEntityId p.talkerUniqueId then none else some .notConnected
  | _ => if s.connected then some .listenerExclusive else none

/-- A controller's command, refused or passed on as the talker's exchange. -/
def request (r : Relay) (m : Model) (p : Pdu) (exchange : Exchange) (now : Time)
    (accepted : Bool) : Relay × List Pdu :=
  match m.sink? m.current p.listenerUniqueId with
  | none => (r, [p.respond .listenerUnknownId])
  | some s =>
    match refusal s p exchange with
    | some status => (r, [p.respond status])
    | none => r.forward p exchange now accepted

/-- What a talker's answer makes of the stream input, and the status for the controller. -/
def conclude (s : Sink) (p : Pdu) (exchange : Exchange) : Sink × Status :=
  if !p.status.isSuccess then (s, p.status)
  else
    match exchange with
    | .disconnectTx => s.unbind p
    | _ => s.bind p

/-- A talker's answer, passed back to the controller. An answer on an unknown stream input, or to
no command in flight, is skipped. -/
def settle (r : Relay) (m : Model) (p : Pdu) (exchange : Exchange) :
    Relay × Model × List Pdu :=
  match m.sink? m.current p.listenerUniqueId with
  | none => (r, m, [])
  | some s =>
    match r.inFlight.take? (.command exchange) p.sequenceId with
    | none => (r, m, [])
    | some (entry, inFlight) =>
      let (s, status) := conclude s p exchange
      let reply := { p with
        messageType := .response exchange.ofController
        status
        sequenceId := entry.controllerSequenceId }
      ({ r with inFlight }, m.modifySink m.current p.listenerUniqueId fun _ => s, [reply])

/-- The answer with the state of a stream input. -/
def describe (m : Model) (p : Pdu) : Pdu :=
  match m.sink? m.current p.listenerUniqueId with
  | none => p.respond .listenerUnknownId
  | some s =>
    { p.respond .success with
      connectionCount := .ofNat s.connected.toNat
      talkerEntityId := s.talkerEntityId
      talkerUniqueId := s.talkerUniqueId
      streamId := s.streamId
      streamDestMac := s.streamDestMac
      streamVlanId := s.streamVlanId
      flags := s.flags }

/-- A PDU handled: the relay and the model after it, and the PDUs to send in turn. The first of
them is `accepted` by the network or not. -/
def handle (r : Relay) (m : Model) (p : Pdu) (now : Time) (accepted : Bool) :
    Relay × Model × List Pdu :=
  match p.messageType with
  | .command .connectRx =>
    let (r, sent) := r.request m p .connectTx now accepted
    (r, m, sent)
  | .command .disconnectRx =>
    let (r, sent) := r.request m p .disconnectTx now accepted
    (r, m, sent)
  | .command .getRxState => (r, m, [describe m p])
  | .response .connectTx => r.settle m p .connectTx
  | .response .disconnectTx => r.settle m p .disconnectTx
  | _ => (r, m, [])

/-- The commands whose time has run out sent again or given up, slot by slot. -/
def tick (r : Relay) (now : Time) : Relay × List Pdu :=
  ({ r with inFlight := ⟨r.inFlight.slots.map (·.bind fun e => (e.tick now).1)⟩ },
    r.inFlight.slots.filterMap (·.bind fun e => (e.tick now).2))

end Relay

end Connection

end AvbEntity

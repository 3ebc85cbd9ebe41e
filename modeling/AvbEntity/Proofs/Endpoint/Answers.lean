import AvbEntity.Proofs.Connection.Answers
import AvbEntity.Proofs.Endpoint.StreamCounts

/-!
# A listener that is answered in any order

Whatever an entity met before, the commands in flight are commands of its relay for stream inputs
that it has, and its number of streams never changes. So every state that it reaches is one in which
the answers of the talkers may come in any order.

## Main results

* `Endpoint.serves_step`, `Endpoint.Reaches.serves`: what is in flight in every state
* `Endpoint.settles_of_reaches`: what comes of the answers to all commands in flight
-/

namespace AvbEntity.Endpoint

open Connection (Answer Delivery Entry Manager Pdu)

/-! ## What is in flight -/

variable {e e₀ : Endpoint} {sent : List Outgoing}

/-- Every step leaves in flight what is for stream inputs that the entity has. -/
theorem serves_step (h : e.connections.relay.Serves e.model) (s : Step) :
    (e.step s).1.connections.relay.Serves (e.step s).1.model := by
  refine Connection.Relay.Serves.congr ?_ (shape_step e s)
  have hstep := connectionStep e s
  generalize (e.step s).1.connections = c, (e.step s).1.model = m,
    connectionPdus (e.step s).2 = sent at hstep ⊢
  cases hstep with
  | heard hcontrol hstarted hdecode => exact Manager.serves_handle h _ _ _
  | ticked hstarted => exact Manager.serves_tick h _
  | published => exact h
  | quiet hheard => exact h

namespace Reaches

theorem holdsCommands (h : Reaches e₀ e sent) (hholds : e₀.connections.relay.HoldsCommands) :
    e.connections.relay.HoldsCommands := by
  induction h with
  | start => exact hholds
  | step h s ih => exact holdsCommands_step ih s
  | resetStreams h ih => exact ih
  | modifySink h configuration uniqueId f ih => exact ih
  | modifySource h configuration uniqueId f ih => exact ih

/-- In every state the commands in flight are for stream inputs that the entity has. -/
theorem serves {tree : Tree} {mac : Mac} (hbuild : Model.build tree mac = .ok e₀.model)
    (h : Reaches e₀ e sent) (hserves : e₀.connections.relay.Serves e₀.model) :
    e.connections.relay.Serves e.model := by
  induction h with
  | start => exact hserves
  | step h s ih => exact serves_step ih s
  | resetStreams h ih =>
    exact ih.congr ((h.resetStreams.shape_eq hbuild).trans (h.shape_eq hbuild).symm)
  | modifySink h configuration uniqueId f ih => exact ih.congr (Model.shape_modifySink ..)
  | modifySource h configuration uniqueId f ih => exact ih.congr (Model.shape_modifySource ..)

end Reaches

/-! ## The answers -/

/-- **Answers may come in any order**: in every state of a listener whose commands in flight have
different sequence numbers, let each of these commands be answered once, in any order and with any
status and any stream. There is one reply to each answer, under the number of the controller's
command, and one slot is freed, until nothing is in flight. A refusal is passed on and changes no
stream; of the connections of one stream input to which the talkers agree, one is reported until a
disconnection is, and for the others the stream input is taken. -/
theorem settles_of_reaches {tree : Tree} {mac : Mac} {model : Model}
    (hbuild : Model.build tree mac = .ok model) {role : Role} (hrole : role.isListener)
    (options : Options) (linkUp : Bool) (h : (start model role options linkUp).Reaches e sent)
    (hapart : e.connections.relay.inFlight.NumberedApart) {ds : List Delivery}
    (hperm : (ds.map (·.entry)).Perm e.connections.relay.inFlight.entries) :
    Delivery.Settles (e.connections, e.model) ds := by
  have hstart : (start model role options linkUp).connections.relay.Serves model :=
    Connection.Relay.serves_start options.inFlightCapacity model
  have hawaits : Connection.Awaits (e.connections, e.model) ds := by
    constructor
    case role =>
      rw [h.role_eq]
      exact hrole
    case holds => exact h.holdsCommands (Connection.Relay.holdsCommands_start _)
    case serves => exact h.serves hbuild hstart
    case apart => exact hapart
    case perm => exact hperm
  exact hawaits.settles

/-- A controller's command on the stream input of the entity with one stream on either side. -/
def hearing (x : Connection.Exchange) (sequenceId : UInt16) : Step :=
  .receive ((multicast (.duplex x sequenceId)).frame .duplex) 0 true

/-- Three controllers want the stream input; one gets it, and asks for the disconnection before the
other two are answered. -/
def contended : List Step :=
  [.setAcmpStarted true, hearing .connectRx 7, hearing .connectRx 8, hearing .connectRx 9,
    .receive ((multicast ((Pdu.duplex .connectTx 0).respond .success)).frame .duplex) 0 true,
    hearing .disconnectRx 10]

/-- The talker's agreement to a command under a number of the relay. -/
def agreement (x : Connection.Exchange) (sequenceId controllerSequenceId : UInt16) : Delivery where
  entry := { command := .duplex x sequenceId, controllerSequenceId, deadline := x.timeout }
  answer := ⟨.success, ⟨5⟩, .zero, 2, 0, 1⟩
  now := 1
  accepted := true

/-- For the first of the two the stream input is still taken, for the second it is free again. -/
theorem settles_contended :
    let e := (start .duplex .both {} true).after contended
    let s := (e.connections, e.model)
    let first := agreement .connectTx 1 8
    let last := agreement .disconnectTx 3 10
    let second := agreement .connectTx 2 9
    Model.build .duplex .duplex = .ok .duplex ∧
      e.connections.relay.inFlight.NumberedApart ∧
      ([first, last, second].map (·.entry)).Perm e.connections.relay.inFlight.entries ∧
      Delivery.Settles s [first, last, second] ∧
      first.Tells s .listenerExclusive ∧ last.Tells (Delivery.after s [first]) .success ∧
      second.Tells (Delivery.after s [first, last]) .success := by
  intro e s first last second
  have hreaches : (start .duplex .both {} true).Reaches e _ :=
    (((((Reaches.start.step (.setAcmpStarted true)).step (hearing .connectRx 7)).step
      (hearing .connectRx 8)).step (hearing .connectRx 9)).step
      (.receive ((multicast ((Pdu.duplex .connectTx 0).respond .success)).frame .duplex) 0
        true)).step (hearing .disconnectRx 10)
  have hentries : e.connections.relay.inFlight.entries =
      [last.entry, first.entry, second.entry] := by
    decide +kernel
  have hapart : e.connections.relay.inFlight.NumberedApart := by
    rw [Connection.InFlight.NumberedApart, hentries]
    decide
  have hperm : ([first, last, second].map (·.entry)).Perm e.connections.relay.inFlight.entries := by
    rw [hentries]
    exact .swap ..
  refine ⟨Model.build_duplex, hapart, hperm, ?_, ?_, ?_, ?_⟩
  · exact settles_of_reaches Model.build_duplex rfl {} true hreaches hapart hperm
  · show _ = _
    decide +kernel
  · show _ = _
    decide +kernel
  · show _ = _
    decide +kernel

end AvbEntity.Endpoint

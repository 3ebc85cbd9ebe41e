import AvbEntity.Endpoint.Streams
import AvbEntity.Proofs.Connection.Codec
import AvbEntity.Proofs.Connection.Manager
import AvbEntity.Proofs.Enumeration.Responder

/-!
# Runs of an endpoint

An endpoint makes one step after another: it receives frames, ticks, and is told things by the
application. A run is any sequence of such steps. Of what a run sends, the connection management
PDUs are those that a receiver can decode; the other two sub-protocols send nothing that reads as
one.

## Main definitions

* `Endpoint.Step`, `Endpoint.step`: the steps of an endpoint
* `Endpoint.after`, `Endpoint.sends`: the endpoint after a run, and what the run sent
* `connectionPdus`: the connection management PDUs among what was sent
* `Endpoint.heard`: the connection management PDU that a step hands over
* `Endpoint.Received`: what a frame can lead to
* `Endpoint.ConnectionStep`: what a step can do to connection management

## Main results

* `Endpoint.received`, `Endpoint.connectionStep`: these are the only things
* `Endpoint.role_after`, `Endpoint.entity_after`, `Endpoint.holdsCommands_after`: what stays true
-/

namespace AvbEntity

open Connection (Manager)

/-! ## What is sent -/

/-- The connection management PDUs among what was sent, as a receiver decodes them. -/
def connectionPdus (sent : List Outgoing) : List Connection.Pdu :=
  sent.filterMap fun o => (Connection.Pdu.decode o.payload).toOption

@[simp] theorem connectionPdus_nil : connectionPdus [] = [] := rfl

@[simp] theorem connectionPdus_append (xs ys : List Outgoing) :
    connectionPdus (xs ++ ys) = connectionPdus xs ++ connectionPdus ys :=
  List.filterMap_append

theorem Endpoint.decode_multicast (p : Connection.Pdu) :
    Connection.Pdu.decode (multicast p).payload = .ok p.received := by
  simpa [multicast] using Connection.Pdu.decode_encode p []

theorem connectionPdus_multicast (ps : List Connection.Pdu) :
    connectionPdus (ps.map Endpoint.multicast) = ps.map (·.received) := by
  simp only [connectionPdus, List.filterMap_map, Function.comp_def, Endpoint.decode_multicast,
    Except.toOption, List.filterMap_eq_map']

/-- What is sent for another sub-protocol is not read. -/
theorem connectionPdus_eq_nil {sent : List Outgoing}
    (h : ∀ o ∈ sent, peekSubtype o.payload ≠ .ok .acmp) : connectionPdus sent = [] := by
  rw [connectionPdus, List.filterMap_eq_nil_iff]
  intro o ho
  cases hdecode : Connection.Pdu.decode o.payload with
  | error fault => rfl
  | ok p => exact absurd (Connection.Pdu.peekSubtype_of_decode hdecode) (h o ho)

theorem connectionPdus_announce (ps : List Discovery.Pdu) :
    connectionPdus (ps.map Endpoint.announce) = [] := by
  apply connectionPdus_eq_nil
  intro o ho
  obtain ⟨p, -, rfl⟩ := List.mem_map.mp ho
  rw [Endpoint.announce, Discovery.Pdu.encode, Discovery.Pdu.header,
    ControlHeader.peekSubtype_encode]
  decide

namespace Endpoint

/-! ## Steps -/

/-- One step of an endpoint: a frame received on a network that does or does not accept the first
frame sent in turn, a tick, or a call of the application. -/
inductive Step where
  | receive (frame : Frame) (now : Time) (accepted : Bool)
  | tick (now : Time) (link : Option Bool)
  | setAcmpStarted (started : Bool)
  | setGrandmaster (id : Eui64)
  | requestDiscover
  | requestDepart
  | publish (configuration uniqueId : UInt16) (streamId : Eui64) (streamDestMac : Mac)
    (streamVlanId : UInt16)
  deriving DecidableEq

/-- The endpoint after a step, and the frames to send in turn. -/
def step (e : Endpoint) : Step → Endpoint × List Outgoing
  | .receive frame now accepted => e.receive frame now accepted
  | .tick now link => e.tick now link
  | .setAcmpStarted started => (e.setAcmpStarted started, [])
  | .setGrandmaster id => (e.setGrandmaster id, [])
  | .requestDiscover => (e.requestDiscover, [])
  | .requestDepart => (e.requestDepart, [])
  | .publish configuration uniqueId streamId streamDestMac streamVlanId =>
    match e.publish configuration uniqueId streamId streamDestMac streamVlanId with
    | .ok e => (e, [])
    | .error _ => (e, [])

/-- The endpoint after a run. -/
def after (e : Endpoint) (steps : List Step) : Endpoint :=
  steps.foldl (fun e s => (e.step s).1) e

/-- The frames that a run sends, whether or not they reach the network. -/
def sends (e : Endpoint) : List Step → List Outgoing
  | [] => []
  | s :: steps => (e.step s).2 ++ (e.step s).1.sends steps

theorem after_cons (e : Endpoint) (s : Step) (steps : List Step) :
    e.after (s :: steps) = (e.step s).1.after steps :=
  rfl

theorem after_append (e : Endpoint) (xs ys : List Step) :
    e.after (xs ++ ys) = (e.after xs).after ys :=
  List.foldl_append

theorem sends_append (e : Endpoint) (xs ys : List Step) :
    e.sends (xs ++ ys) = e.sends xs ++ (e.after xs).sends ys := by
  induction xs generalizing e with
  | nil => rfl
  | cons s xs ih => simp [sends, after_cons, ih, List.append_assoc]

/-- The connection management PDU that a step hands over: one that arrives in a frame of the control
protocols, while connection management is running. -/
def heard (e : Endpoint) : Step → Option Connection.Pdu
  | .receive frame _ _ =>
    if frame.isControl && e.acmpStarted then (Connection.Pdu.decode frame.payload).toOption
    else none
  | _ => none

/-- The PDU that was handed over, if there was one, is that of the frame received. -/
theorem heard_eq_some {e : Endpoint} {s : Step} {p : Connection.Pdu} :
    e.heard s = some p ↔ ∃ frame now accepted, s = .receive frame now accepted ∧
      frame.isControl ∧ e.acmpStarted ∧ Connection.Pdu.decode frame.payload = .ok p := by
  constructor
  · intro h
    cases s with
    | receive frame now accepted =>
      simp only [heard, Option.ite_none_right_eq_some, Bool.and_eq_true] at h
      exact ⟨frame, now, accepted, rfl, h.1.1, h.1.2, toOption_eq_some.mp h.2⟩
    | _ => simp [heard] at h
  · rintro ⟨frame, now, accepted, rfl, hcontrol, hstarted, hp⟩
    rw [heard, hcontrol, hstarted, Bool.and_self, if_pos rfl]
    exact toOption_eq_some.mpr hp

/-- What a step can do to connection management: the manager and the model after it, and the PDUs
that it sends. -/
inductive ConnectionStep (e : Endpoint) :
    Step → Manager → Model → List Connection.Pdu → Prop
  | heard {frame : Frame} {now : Time} {accepted : Bool} {p : Connection.Pdu}
    (hcontrol : frame.isControl) (hstarted : e.acmpStarted)
    (hdecode : Connection.Pdu.decode frame.payload = .ok p) :
    ConnectionStep e (.receive frame now accepted)
      (e.connections.handle e.model p now accepted).1
      (e.connections.handle e.model p now accepted).2.1
      ((e.connections.handle e.model p now accepted).2.2.map (·.received))
  | ticked {now : Time} {link : Option Bool} (hstarted : e.acmpStarted) :
    ConnectionStep e (.tick now link) (e.connections.tick now).1 e.model
      ((e.connections.tick now).2.map (·.received))
  | published {configuration uniqueId : UInt16} {streamId : Eui64} {streamDestMac : Mac}
    {streamVlanId : UInt16} :
    ConnectionStep e (.publish configuration uniqueId streamId streamDestMac streamVlanId)
      e.connections
      (e.model.modifySource configuration uniqueId
        (·.publish streamId streamDestMac streamVlanId)) []
  | quiet {s : Step} (hheard : e.heard s = none) : ConnectionStep e s e.connections e.model []

/-- The connection management PDU of a frame is handed to the manager. -/
theorem receive_of_decode {e : Endpoint} {frame : Frame} {p : Connection.Pdu}
    (hcontrol : frame.isControl) (hstarted : e.acmpStarted)
    (hdecode : Connection.Pdu.decode frame.payload = .ok p) (now : Time) (accepted : Bool) :
    e.receive frame now accepted =
      ({ e with
          connections := (e.connections.handle e.model p now accepted).1
          model := (e.connections.handle e.model p now accepted).2.1 },
        (e.connections.handle e.model p now accepted).2.2.map multicast) := by
  have hroute : e.route frame now accepted = .ok
      ({ e with
          connections := (e.connections.handle e.model p now accepted).1
          model := (e.connections.handle e.model p now accepted).2.1 },
        (e.connections.handle e.model p now accepted).2.2.map multicast) := by
    rw [route, Connection.Pdu.peekSubtype_of_decode hdecode]
    simp only [bind, Except.bind, hstarted, if_true, hdecode]
    rfl
  rw [receive, if_pos hcontrol, hroute]

/-- What a frame can lead to. -/
inductive Received (e : Endpoint) (frame : Frame) (now : Time) (accepted : Bool) :
    Endpoint × List Outgoing → Prop
  | dropped : Received e frame now accepted (e, [])
  | discovery {p : Discovery.Pdu} (hcontrol : frame.isControl)
    (hdecode : Discovery.Pdu.decode frame.payload = .ok p) :
    Received e frame now accepted
      ({ e with advertiser := e.advertiser.hear e.model.entityId p }, [])
  | enumeration {r : Enumeration.Responder} {response : Option Octets} (hcontrol : frame.isControl)
    (hhandle : e.responder.handle e.model frame.payload = .ok (r, response)) :
    Received e frame now accepted
      ({ e with responder := r }, response.toList.map (⟨frame.src, ·⟩))
  | connection {p : Connection.Pdu} (hcontrol : frame.isControl) (hstarted : e.acmpStarted)
    (hdecode : Connection.Pdu.decode frame.payload = .ok p) :
    Received e frame now accepted
      ({ e with
          connections := (e.connections.handle e.model p now accepted).1
          model := (e.connections.handle e.model p now accepted).2.1 },
        (e.connections.handle e.model p now accepted).2.2.map multicast)

theorem received (e : Endpoint) (frame : Frame) (now : Time) (accepted : Bool) :
    Received e frame now accepted (e.receive frame now accepted) := by
  unfold receive
  split
  next hcontrol =>
    cases hroute : e.route frame now accepted with
    | error fault => exact .dropped
    | ok result =>
      obtain ⟨subtype, hpeek, hrest⟩ := bind_eq_ok.mp hroute
      cases subtype with
      | adp =>
        obtain ⟨p, hdecode, hp⟩ := bind_eq_ok.mp hrest
        obtain rfl := Except.ok.inj hp
        exact .discovery hcontrol hdecode
      | aecp =>
        obtain ⟨⟨r, response⟩, hhandle, hp⟩ := bind_eq_ok.mp hrest
        obtain rfl := Except.ok.inj hp
        exact .enumeration hcontrol hhandle
      | acmp =>
        simp only at hrest
        split at hrest
        next hstarted =>
          obtain ⟨p, hdecode, hp⟩ := bind_eq_ok.mp hrest
          obtain rfl := Except.ok.inj hp
          exact .connection hcontrol hstarted hdecode
        next =>
          obtain rfl := Except.ok.inj hrest
          exact .dropped
  next => exact .dropped

/-- What a frame leads to otherwise sends no connection management PDU, and leaves the manager and
the model. -/
theorem receive_of_not_heard {e : Endpoint} {frame : Frame} {now : Time} {accepted : Bool}
    (h : e.heard (.receive frame now accepted) = none) :
    (e.receive frame now accepted).1.connections = e.connections ∧
      (e.receive frame now accepted).1.model = e.model ∧
      connectionPdus (e.receive frame now accepted).2 = [] := by
  have hend := received e frame now accepted
  generalize e.receive frame now accepted = result at hend ⊢
  cases hend with
  | dropped => exact ⟨rfl, rfl, rfl⟩
  | discovery hcontrol hdecode => exact ⟨rfl, rfl, rfl⟩
  | enumeration hcontrol hhandle =>
    refine ⟨rfl, rfl, connectionPdus_eq_nil fun o ho => ?_⟩
    rw [Enumeration.Responder.peekSubtype_of_mem hhandle ho]
    decide
  | connection hcontrol hstarted hdecode =>
    have hheard := heard_eq_some.mpr ⟨frame, now, accepted, rfl, hcontrol, hstarted, hdecode⟩
    exact absurd (h.symm.trans hheard) (Option.some_ne_none _).symm

/-- Every step does one of these things to connection management. -/
theorem connectionStep (e : Endpoint) (s : Step) :
    ConnectionStep e s (e.step s).1.connections (e.step s).1.model
      (connectionPdus (e.step s).2) := by
  cases s with
  | receive frame now accepted =>
    cases hheard : e.heard (.receive frame now accepted) with
    | none =>
      obtain ⟨hconnections, hmodel, hsent⟩ := receive_of_not_heard hheard
      simp only [step]
      rw [hconnections, hmodel, hsent]
      exact .quiet hheard
    | some p =>
      obtain ⟨_, _, _, hs, hcontrol, hstarted, hdecode⟩ := heard_eq_some.mp hheard
      obtain ⟨rfl, rfl, rfl⟩ := Step.receive.inj hs
      simp only [step]
      rw [receive_of_decode hcontrol hstarted hdecode, connectionPdus_multicast]
      exact .heard hcontrol hstarted hdecode
  | tick now link =>
    -- a tick also announces the entity, which no receiver takes for connection management
    by_cases hstarted : e.acmpStarted = true
    · have hticked : ConnectionStep e (.tick now link) _ _ _ := .ticked hstarted
      simpa [step, tick, hstarted, connectionPdus_announce, connectionPdus_multicast] using hticked
    · have hquiet : ConnectionStep e (.tick now link) _ _ _ := .quiet rfl
      simpa [step, tick, hstarted, connectionPdus_announce] using hquiet
  | publish configuration uniqueId streamId streamDestMac streamVlanId =>
    simp only [step, publish, modifySource]
    cases e.source configuration uniqueId with
    | error fault => exact .quiet rfl
    | ok s => exact .published
  | setAcmpStarted started => exact .quiet rfl
  | setGrandmaster id => exact .quiet rfl
  | requestDiscover => exact .quiet rfl
  | requestDepart => exact .quiet rfl

/-! ## What stays true -/

@[simp] theorem role_step (e : Endpoint) (s : Step) :
    (e.step s).1.connections.role = e.connections.role := by
  have hstep := connectionStep e s
  generalize (e.step s).1.connections = c, (e.step s).1.model = m,
    connectionPdus (e.step s).2 = sent at hstep ⊢
  cases hstep with
  | heard hcontrol hstarted hdecode => exact Manager.role_handle ..
  | ticked hstarted => exact Manager.role_tick ..
  | published => rfl
  | quiet hheard => rfl

@[simp] theorem entity_step (e : Endpoint) (s : Step) :
    (e.step s).1.model.entity = e.model.entity := by
  have hstep := connectionStep e s
  generalize (e.step s).1.connections = c, (e.step s).1.model = m,
    connectionPdus (e.step s).2 = sent at hstep ⊢
  cases hstep with
  | heard hcontrol hstarted hdecode => exact Manager.entity_handle ..
  | ticked hstarted => rfl
  | published => exact Model.entity_modifySource ..
  | quiet hheard => rfl

theorem holdsCommands_step {e : Endpoint} (h : e.connections.relay.HoldsCommands) (s : Step) :
    (e.step s).1.connections.relay.HoldsCommands := by
  have hstep := connectionStep e s
  generalize (e.step s).1.connections = c, (e.step s).1.model = m,
    connectionPdus (e.step s).2 = sent at hstep ⊢
  cases hstep with
  | heard hcontrol hstarted hdecode => exact Manager.holdsCommands_handle _ _ _ _ h
  | ticked hstarted => exact Manager.holdsCommands_tick _ h
  | published => exact h
  | quiet hheard => exact h

theorem role_after (e : Endpoint) (steps : List Step) :
    (e.after steps).connections.role = e.connections.role := by
  induction steps generalizing e with
  | nil => rfl
  | cons s steps ih => rw [after_cons, ih, role_step]

theorem entity_after (e : Endpoint) (steps : List Step) :
    (e.after steps).model.entity = e.model.entity := by
  induction steps generalizing e with
  | nil => rfl
  | cons s steps ih => rw [after_cons, ih, entity_step]

theorem current_step (e : Endpoint) (s : Step) :
    (e.step s).1.model.current = e.model.current := by
  rw [Model.current, Model.current, entity_step]

theorem current_after (e : Endpoint) (steps : List Step) :
    (e.after steps).model.current = e.model.current := by
  rw [Model.current, Model.current, entity_after]

theorem holdsCommands_after {e : Endpoint} (h : e.connections.relay.HoldsCommands)
    (steps : List Step) : (e.after steps).connections.relay.HoldsCommands := by
  induction steps generalizing e with
  | nil => exact h
  | cons s steps ih => exact ih (holdsCommands_step h s)

end Endpoint

end AvbEntity

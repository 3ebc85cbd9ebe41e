import AvbEntity.Proofs.Endpoint.Run
import AvbEntity.Proofs.Model.Build
import Mathlib.Data.List.Induction

/-!
# A stream input has one talker at a time

Commands of several controllers for one stream input may be in flight together, and the talkers
answer in any order. What the answers do to the stream input, and what the controllers are told,
always fit together: the controllers hear of a connection and of its end by turns, and between the
two the stream input keeps what the talker said when it was connected.

## Main definitions

* `Connection.outcomes`: the connections and disconnections of a stream input that were reported
* `Connection.Relay.IsAnswer`: the talker's answer to a command in flight
* `Endpoint.SinkHistory`: how a stream input came to be as it is

## Main results

* `Connection.Relay.sinkHandled`: what a PDU can do to a stream input, and what it reports
* `Endpoint.sinkStep`: the same for every step of an endpoint
* `Endpoint.sinkHistory_after`: how the stream inputs of every run came to be as they are
-/

namespace AvbEntity

namespace Connection

/-! ## What is reported -/

/-- What a PDU reports to a controller of a stream input: that it was connected, or that it was
disconnected. -/
def Pdu.outcome? (u : UInt16) (p : Pdu) : Option Bool :=
  if p.status.isSuccess && p.listenerUniqueId == u then
    match p.messageType with
    | .response .connectRx => some true
    | .response .disconnectRx => some false
    | _ => none
  else none

/-- The connections and disconnections of a stream input that were reported, in order. -/
def outcomes (u : UInt16) (sent : List Pdu) : List Bool :=
  sent.filterMap (·.outcome? u)

theorem outcomes_append (u : UInt16) (xs ys : List Pdu) :
    outcomes u (xs ++ ys) = outcomes u xs ++ outcomes u ys :=
  List.filterMap_append

theorem outcomes_eq_nil {u : UInt16} {sent : List Pdu} (h : ∀ p ∈ sent, p.outcome? u = none) :
    outcomes u sent = [] :=
  List.filterMap_eq_nil_iff.mpr h

theorem outcomes_singleton {u : UInt16} {p : Pdu} (h : p.outcome? u = none) :
    outcomes u [p] = [] :=
  List.filterMap_cons_none h

namespace Pdu

variable {u : UInt16} {p : Pdu}

theorem outcome?_of_isReply (h : p.messageType.isReply = false) : p.outcome? u = none := by
  unfold outcome?
  unfold MessageType.isReply at h
  split <;> split at h <;> simp_all

theorem outcome?_of_status (h : p.status.isSuccess = false) : p.outcome? u = none := by
  rw [outcome?, h, Bool.false_and, if_neg Bool.false_ne_true]

theorem outcome?_of_ne (h : p.listenerUniqueId ≠ u) : p.outcome? u = none := by
  rw [outcome?, beq_eq_false_iff_ne.mpr h, Bool.and_false, if_neg Bool.false_ne_true]

end Pdu

/-- A command is never refused with success, also as its controller reads the status. -/
theorem Relay.refusal_isSuccess {s : Sink} {p : Pdu} {x : Exchange} {status : Status}
    (h : refusal s p x = some status) : (p.respond status).received.status.isSuccess = false := by
  have hstatus : status = .notConnected ∨ status = .listenerExclusive := by
    unfold refusal at h
    split at h
    · split at h <;> simp_all
    · split at h <;> simp_all
  rcases hstatus with rfl | rfl <;> rfl

namespace Relay

/-- The success that a talker reports for a command in flight on a stream input. -/
structure IsAnswer (r : Relay) (u : UInt16) (p : Pdu) (x : Exchange) : Prop where
  messageType : p.messageType = .response x
  status : p.status = .success
  listenerUniqueId : p.listenerUniqueId = u
  inFlight : ∃ e ∈ r.inFlight.entries, e.isFor (.command x) p.sequenceId

/-- What a PDU can do to a stream input, and what it reports of it. -/
inductive SinkHandled (r : Relay) (u : UInt16) (p : Pdu) (s : Sink) : Sink → List Bool → Prop
  | kept : SinkHandled r u p s s []
  | connected (hanswer : r.IsAnswer u p .connectTx) (hfree : s.connected = false) :
    SinkHandled r u p s (.recorded s.listenerUniqueId p) [true]
  | disconnected (hanswer : r.IsAnswer u p .disconnectTx)
    (hbound : s.isBoundTo p.talkerEntityId p.talkerUniqueId) :
    SinkHandled r u p s (.fresh s.listenerUniqueId) [false]

theorem outcomes_request (r : Relay) (m : Model) (p : Pdu) {x : Exchange} (hx : x.IsRelayed)
    (now : Time) (accepted : Bool) (u : UInt16) :
    outcomes u ((r.request m p x now accepted).2.map (·.received)) = [] := by
  have hcommand : (r.outgoing p x).received.outcome? u = none := by
    apply Pdu.outcome?_of_isReply
    rcases hx with rfl | rfl <;> rfl
  apply outcomes_eq_nil
  have hend := requested r m p x now accepted
  generalize r.request m p x now accepted = result at hend ⊢
  cases hend with
  | unknown hsink => simpa using Pdu.outcome?_of_status rfl
  | refused hsink hrefusal => simpa using Pdu.outcome?_of_status (refusal_isSuccess hrefusal)
  | full hsink hrefusal hfull => simpa using Pdu.outcome?_of_status rfl
  | unsent hsink hrefusal hinsert => simpa [hcommand] using Pdu.outcome?_of_status rfl
  | forwarded hsink hrefusal hinsert => simpa using hcommand

/-- What an answer makes of its stream input, and the outcome that goes with it. -/
theorem sinkHandled_conclude {r : Relay} {p : Pdu} {x : Exchange} {e : Entry}
    (hp : p.received = p) (hx : x.IsRelayed) (htype : p.messageType = .response x)
    (hmem : e ∈ r.inFlight.entries) (hmatch : e.isFor (.command x) p.sequenceId) (s : Sink) :
    r.SinkHandled p.listenerUniqueId p s (conclude s p x).1
      (outcomes p.listenerUniqueId [(reply s p x e).received]) := by
  have hinFlight : ∃ e ∈ r.inFlight.entries, e.isFor (.command x) p.sequenceId :=
    ⟨e, hmem, hmatch⟩
  have hend := judged s p hx
  rw [reply]
  generalize conclude s p x = result at hend ⊢
  cases hend with
  | refused hrefused =>
    have hfailure : p.received.status.isSuccess = false := by
      rw [hp]
      exact beq_eq_false_iff_ne.mpr hrefused
    rw [outcomes_singleton]
    · exact .kept
    · exact Pdu.outcome?_of_status hfailure
  | connected hagreed hfree =>
    have houtcome : outcomes p.listenerUniqueId [Pdu.received { p with
        messageType := .response .connectRx
        status := .success
        sequenceId := e.controllerSequenceId }] = [true] := by
      simp [outcomes, Pdu.outcome?, Pdu.received, Status.isSuccess, Status.success]
    exact houtcome ▸ .connected ⟨htype, hagreed, rfl, hinFlight⟩ hfree
  | exclusive hagreed hconnected =>
    rw [outcomes_singleton (Pdu.outcome?_of_status rfl)]
    exact .kept
  | disconnected hagreed hbound =>
    have houtcome : outcomes p.listenerUniqueId [Pdu.received { p with
        messageType := .response .disconnectRx
        status := .success
        sequenceId := e.controllerSequenceId }] = [false] := by
      simp [outcomes, Pdu.outcome?, Pdu.received, Status.isSuccess, Status.success]
    exact houtcome ▸ .disconnected ⟨htype, hagreed, rfl, hinFlight⟩ hbound
  | misbehaving hagreed hunbound =>
    rw [outcomes_singleton (Pdu.outcome?_of_status rfl)]
    exact .kept

theorem sinkHandled_settle (r : Relay) {m : Model} {p : Pdu} (hp : p.received = p) {x : Exchange}
    (hx : x.IsRelayed) (htype : p.messageType = .response x) {u : UInt16} {s : Sink}
    (hs : m.sink? m.current u = some s) :
    ∃ s', (r.settle m p x).2.1.sink? m.current u = some s' ∧
      r.SinkHandled u p s s' (outcomes u ((r.settle m p x).2.2.map (·.received))) := by
  have hend := settled r m p x
  generalize r.settle m p x = result at hend ⊢
  cases hend with
  | unknown hsink => exact ⟨s, hs, .kept⟩
  | unsolicited hsink htake => exact ⟨s, hs, .kept⟩
  | @answered s' e t hsink htake =>
    rw [Model.sink?_modifySink, hs, List.map_singleton]
    by_cases hu : p.listenerUniqueId = u
    · subst hu
      obtain rfl := Option.some.inj (hsink.symm.trans hs)
      obtain ⟨hperm, hfor⟩ := InFlight.entries_take?_perm htake
      rw [if_pos ⟨rfl, rfl⟩]
      exact ⟨_, rfl, sinkHandled_conclude hp hx htype (hperm.mem_iff.mpr List.mem_cons_self)
        (Entry.isFor_iff.mpr hfor) s'⟩
    · have hne : (reply s' p x e).received.listenerUniqueId ≠ u := hu
      rw [if_neg fun h => hu h.2, outcomes_singleton (Pdu.outcome?_of_ne hne)]
      exact ⟨s, rfl, .kept⟩

/-- What a PDU can do to a stream input, and what it reports of it. -/
theorem sinkHandled (r : Relay) {m : Model} {p : Pdu} (hp : p.received = p) (now : Time)
    (accepted : Bool) {u : UInt16} {s : Sink} (hs : m.sink? m.current u = some s) :
    ∃ s', (r.handle m p now accepted).2.1.sink? m.current u = some s' ∧
      r.SinkHandled u p s s'
        (outcomes u ((r.handle m p now accepted).2.2.map (·.received))) := by
  have hend := handled r m p now accepted
  generalize r.handle m p now accepted = result at hend ⊢
  cases hend with
  | request hx htype =>
    rw [outcomes_request r m p hx]
    exact ⟨s, hs, .kept⟩
  | settle hx htype => exact sinkHandled_settle r hp hx htype hs
  | describe htype =>
    have hreply : (describe m p).received.messageType.isReply = false := by
      have hrespond : p.messageType.toResponse.isReply = false := htype ▸ rfl
      unfold describe
      split <;> exact hrespond
    rw [List.map_singleton, outcomes_singleton (Pdu.outcome?_of_isReply hreply)]
    exact ⟨s, hs, .kept⟩
  | ignored htype => exact ⟨s, hs, .kept⟩

/-- A tick reports neither a connection nor a disconnection. -/
theorem outcomes_tick {r : Relay} (h : r.HoldsCommands) (now : Time) (u : UInt16) :
    outcomes u ((r.tick now).2.map (·.received)) = [] := by
  apply outcomes_eq_nil
  intro q' hq'
  rw [sent_tick] at hq'
  obtain ⟨q, hq, rfl⟩ := List.mem_map.mp hq'
  obtain ⟨e, he, htick⟩ := List.mem_filterMap.mp hq
  obtain ⟨x, hx, htype⟩ := h e he
  have hend := e.ticked now
  generalize e.tick now = result at hend htick
  cases hend with
  | waits hwait => exact absurd htick (Option.some_ne_none q).symm
  | resent hdue hretried =>
    obtain rfl := Option.some.inj htick
    apply Pdu.outcome?_of_isReply
    rw [Pdu.received_messageType, htype]
    rfl
  | givenUp hdue hretried =>
    obtain rfl := Option.some.inj htick
    exact Pdu.outcome?_of_status rfl

end Relay

/-- The talker reports nothing of a stream input. -/
theorem Talker.outcomes_respond {m : Model} {p : Pdu} (h : p.messageType.isForTalker)
    (u : UInt16) : outcomes u ((respond m p).2.map (·.received)) = [] := by
  have hend := responded m h
  generalize respond m p = result at hend ⊢
  cases hend with
  | unknown hsource =>
    exact outcomes_singleton (Pdu.outcome?_of_isReply (MessageType.isReply_toResponse h))
  | answered hsource hact =>
    refine outcomes_singleton (Pdu.outcome?_of_isReply ?_)
    rw [Pdu.received_messageType, Talker.messageType_of_act hact]
    exact MessageType.isReply_toResponse h

/-! ## By turns -/

/-- Connections and disconnections by turns, beginning with a connection; the last one of them was
a connection or not. -/
inductive Turns : Bool → List Bool → Prop
  | start : Turns false []
  | next {connected : Bool} {os : List Bool} (h : Turns connected os) :
    Turns (!connected) (os ++ [!connected])

namespace Turns

variable {connected : Bool} {os : List Bool}

theorem getLast?_eq (h : Turns connected os) : connected = true ↔ os.getLast? = some true := by
  cases h <;> simp

theorem length_mod (h : Turns connected os) : os.length % 2 = connected.toNat := by
  induction h with
  | start => rfl
  | @next connected os h ih =>
    rw [List.length_append, List.length_singleton, Nat.add_mod, ih]
    cases connected <;> rfl

theorem getElem_eq (h : Turns connected os) {i : Nat} (hi : i < os.length) :
    os[i] = decide (i % 2 = 0) := by
  induction h with
  | start => exact absurd hi (Nat.not_lt_zero i)
  | @next connected os h ih =>
    rcases Nat.lt_succ_iff_lt_or_eq.mp (by simpa using hi) with hlt | rfl
    · rw [List.getElem_append_left hlt, ih hlt]
    · rw [List.getElem_concat_length rfl, h.length_mod]
      cases connected <;> rfl

end Turns

end Connection

namespace Endpoint

open Connection (Exchange Manager Pdu Turns outcomes)

/-! ## One step -/

/-- A step hands over the success that a talker reports for a command in flight on a stream input
of this entity. -/
def Concludes (e : Endpoint) (t : Step) (u : UInt16) (p : Pdu) (x : Exchange) : Prop :=
  e.heard t = some p ∧ p.listenerEntityId = e.model.entityId ∧ e.connections.relay.IsAnswer u p x

/-- What a step can do to a stream input, and what it reports of it. -/
inductive SinkStep (e : Endpoint) (u : UInt16) (t : Step) (s : Sink) : Sink → List Bool → Prop
  | kept : SinkStep e u t s s []
  | connected {p : Pdu} (h : e.Concludes t u p .connectTx) (hfree : s.connected = false) :
    SinkStep e u t s (.recorded s.listenerUniqueId p) [true]
  | disconnected {p : Pdu} (h : e.Concludes t u p .disconnectTx)
    (hbound : s.isBoundTo p.talkerEntityId p.talkerUniqueId) :
    SinkStep e u t s (.fresh s.listenerUniqueId) [false]

/-- Every step does one of these things to a stream input. -/
theorem sinkStep {e : Endpoint} (hholds : e.connections.relay.HoldsCommands) (t : Step)
    {u : UInt16} {s : Sink} (hs : e.model.sink? e.model.current u = some s) :
    ∃ s', (e.step t).1.model.sink? e.model.current u = some s' ∧
      e.SinkStep u t s s' (outcomes u (connectionPdus (e.step t).2)) := by
  have hstep := connectionStep e t
  generalize (e.step t).1.connections = c, (e.step t).1.model = m,
    connectionPdus (e.step t).2 = sent at hstep ⊢
  cases hstep with
  | @heard frame now accepted p hcontrol hstarted hdecode =>
    have hheard : e.heard (.receive frame now accepted) = some p :=
      heard_eq_some.mpr ⟨frame, now, accepted, rfl, hcontrol, hstarted, hdecode⟩
    have hend := e.connections.handled e.model p now accepted
    generalize e.connections.handle e.model p now accepted = result at hend ⊢
    cases hend with
    | talker htype hrole hnamed =>
      rw [Connection.Talker.outcomes_respond htype, (Connection.Talker.respond_frame _ htype).2]
      exact ⟨s, hs, .kept⟩
    | listener htype hrole hnamed =>
      obtain ⟨s', hs', hend⟩ := e.connections.relay.sinkHandled
        (Connection.Pdu.received_of_decode hdecode) now accepted hs
      refine ⟨s', hs', ?_⟩
      generalize outcomes u _ = os at hend ⊢
      cases hend with
      | kept => exact .kept
      | connected hanswer hfree => exact .connected ⟨hheard, hnamed, hanswer⟩ hfree
      | disconnected hanswer hbound => exact .disconnected ⟨hheard, hnamed, hanswer⟩ hbound
    | ignored htype => exact ⟨s, hs, .kept⟩
  | ticked hstarted =>
    rw [Manager.tick]
    split
    · rw [Connection.Relay.outcomes_tick hholds]
      exact ⟨s, hs, .kept⟩
    · exact ⟨s, hs, .kept⟩
  | published =>
    rw [Model.sink?_modifySource]
    exact ⟨s, hs, .kept⟩
  | quiet hheard => exact ⟨s, hs, .kept⟩

/-! ## Whole runs -/

/-- The state of a stream input of the configuration in use, after a run. -/
def sinkAfter (e : Endpoint) (u : UInt16) (steps : List Step) : Option Sink :=
  (e.after steps).model.sink? e.model.current u

/-- The connections and disconnections of a stream input that a run reports to controllers. -/
def outcomesOf (e : Endpoint) (u : UInt16) (steps : List Step) : List Bool :=
  outcomes u (connectionPdus (e.sends steps))

/-- The stream input is as one step of a run connected it, and was so ever since. -/
def RecordedIn (e : Endpoint) (u : UInt16) (steps : List Step) (s : Sink) : Prop :=
  ∃ before t since p, steps = before ++ t :: since ∧
    (e.after before).Concludes t u p .connectTx ∧ s = .recorded u p ∧
    ∀ part, part <+: since → e.sinkAfter u (before ++ t :: part) = some s

/-- How a stream input came to be as it is after a run. -/
structure SinkHistory (e : Endpoint) (u : UInt16) (steps : List Step) (s : Sink) : Prop where
  /-- Connections and disconnections are reported by turns, and a connection first. -/
  alternates : ∀ i (hi : i < (e.outcomesOf u steps).length),
    (e.outcomesOf u steps)[i] = decide (i % 2 = 0)
  /-- The stream input is connected if the last of them was a connection. -/
  connected_iff : s.connected = true ↔ (e.outcomesOf u steps).getLast? = some true
  /-- A connected stream input is as the talker's answer connected it. -/
  recorded : s.connected = true → e.RecordedIn u steps s
  /-- It stays so, except that the answer to a disconnection clears it: to one in flight, and of
  exactly the stream output that it is connected to. -/
  kept : s.connected = true → ∀ t, e.sinkAfter u (steps ++ [t]) = some s ∨
    e.sinkAfter u (steps ++ [t]) = some (.fresh u) ∧
      ∃ p, (e.after steps).Concludes t u p .disconnectTx ∧
        p.talkerEntityId = s.talkerEntityId ∧ p.talkerUniqueId = s.talkerUniqueId
  /-- A stream input that is not connected is as if it never had been, for the application that
  asks for its stream and for the controller that asks for its state. -/
  idle : s.connected = false → s = .fresh u ∧
    (e.after steps).streamId e.model.current u = .ok .zero ∧
    ∀ p : Pdu, p.listenerUniqueId = u → Connection.Relay.describe (e.after steps).model p =
      { p.respond .success with
        connectionCount := 0
        talkerEntityId := .zero
        talkerUniqueId := 0
        streamId := .zero
        streamDestMac := .zero
        streamVlanId := 0
        flags := 0 }

/-- What stays true of a stream input: its outcomes come by turns, and it is as it was recorded or
as if it had never been connected. -/
structure SinkInvariant (e : Endpoint) (u : UInt16) (steps : List Step) (s : Sink) : Prop where
  current : e.sinkAfter u steps = some s
  turns : Turns s.connected (e.outcomesOf u steps)
  recorded : s.connected = true → e.RecordedIn u steps s
  fresh : s.connected = false → s = .fresh u

section

variable {e : Endpoint} {u : UInt16}

theorem outcomesOf_concat (e : Endpoint) (u : UInt16) (steps : List Step) (t : Step) :
    e.outcomesOf u (steps ++ [t]) =
      e.outcomesOf u steps ++ outcomes u (connectionPdus ((e.after steps).step t).2) := by
  rw [outcomesOf, sends_append, connectionPdus_append, Connection.outcomes_append]
  simp [sends, outcomesOf]

theorem RecordedIn.concat {steps : List Step} {s : Sink} (h : e.RecordedIn u steps s) {t : Step}
    (hs : e.sinkAfter u (steps ++ [t]) = some s) : e.RecordedIn u (steps ++ [t]) s := by
  obtain ⟨before, t₀, since, p, rfl, hconcludes, hrecorded, hsince⟩ := h
  refine ⟨before, t₀, since ++ [t], p, by simp, hconcludes, hrecorded, fun part hpart => ?_⟩
  rcases List.prefix_concat_iff.mp hpart with rfl | hpart
  · simpa using hs
  · exact hsince part hpart

/-- The last step, as it is seen from the state before it. -/
theorem sinkStep_after (hholds : e.connections.relay.HoldsCommands) {steps : List Step} {s : Sink}
    (hs : e.sinkAfter u steps = some s) (t : Step) :
    ∃ s', e.sinkAfter u (steps ++ [t]) = some s' ∧
      (e.after steps).SinkStep u t s s'
        (outcomes u (connectionPdus ((e.after steps).step t).2)) := by
  rw [sinkAfter, ← current_after e steps] at hs
  obtain ⟨s', hs', hstep⟩ := sinkStep (holdsCommands_after hholds steps) t hs
  refine ⟨s', ?_, hstep⟩
  rw [sinkAfter, after_append, ← current_after e steps]
  exact hs'

theorem connected_of_isBoundTo {s : Sink} {talkerEntityId : Eui64} {talkerUniqueId : UInt16}
    (h : s.isBoundTo talkerEntityId talkerUniqueId) :
    s.connected = true ∧ s.talkerEntityId = talkerEntityId ∧ s.talkerUniqueId = talkerUniqueId := by
  rw [Sink.isBoundTo, Bool.and_eq_true, Bool.and_eq_true, beq_iff_eq, beq_iff_eq] at h
  exact ⟨h.1.1, h.1.2, h.2⟩

/-- A connected stream input has its own number. -/
theorem RecordedIn.listenerUniqueId_eq {steps : List Step} {s : Sink}
    (h : e.RecordedIn u steps s) : s.listenerUniqueId = u := by
  obtain ⟨before, t, since, p, -, -, rfl, -⟩ := h
  rfl

theorem SinkInvariant.step (hholds : e.connections.relay.HoldsCommands) {steps : List Step}
    {s : Sink} (h : e.SinkInvariant u steps s) (t : Step) :
    ∃ s', e.SinkInvariant u (steps ++ [t]) s' := by
  obtain ⟨s', hs', hstep⟩ := sinkStep_after hholds h.current t
  have houtcomes := outcomesOf_concat e u steps t
  generalize outcomes u (connectionPdus ((e.after steps).step t).2) = os at hstep houtcomes
  cases hstep with
  | kept =>
    refine ⟨s, hs', ?_, fun hconnected => (h.recorded hconnected).concat hs', h.fresh⟩
    rw [houtcomes, List.append_nil]
    exact h.turns
  | @connected p hconcludes hfree =>
    have hrecorded : Sink.recorded s.listenerUniqueId p = .recorded u p := by
      rw [h.fresh hfree]
      rfl
    rw [hrecorded] at hs'
    refine ⟨.recorded u p, hs', ?_, fun _ => ?_, fun hfresh => ?_⟩
    · rw [houtcomes]
      exact (hfree ▸ h.turns).next
    · refine ⟨steps, t, [], p, rfl, hconcludes, rfl, fun part hpart => ?_⟩
      rw [List.prefix_nil.mp hpart]
      exact hs'
    · exact absurd hfresh (by simp [Sink.recorded])
  | disconnected hconcludes hbound =>
    have hconnected := (connected_of_isBoundTo hbound).1
    rw [(h.recorded hconnected).listenerUniqueId_eq] at hs'
    refine ⟨.fresh u, hs', ?_, fun hfresh => absurd hfresh (by simp [Sink.fresh]), fun _ => rfl⟩
    rw [houtcomes]
    exact (hconnected ▸ h.turns).next

theorem sinkInvariant_after (hholds : e.connections.relay.HoldsCommands)
    (hs : e.model.sink? e.model.current u = some (.fresh u)) (steps : List Step) :
    ∃ s, e.SinkInvariant u steps s := by
  -- by the last step, since what is recorded lies before it
  induction steps using List.reverseRecOn with
  | nil => exact ⟨.fresh u, hs, .start, fun hconnected => absurd hconnected (by simp [Sink.fresh]),
      fun _ => rfl⟩
  | append_singleton steps t ih =>
    obtain ⟨s, h⟩ := ih
    exact h.step hholds t

theorem SinkInvariant.history (hholds : e.connections.relay.HoldsCommands) {steps : List Step}
    {s : Sink} (h : e.SinkInvariant u steps s) : e.SinkHistory u steps s where
  alternates i hi := h.turns.getElem_eq hi
  connected_iff := h.turns.getLast?_eq
  recorded := h.recorded
  kept hconnected t := by
    obtain ⟨s', hs', hstep⟩ := sinkStep_after hholds h.current t
    generalize outcomes u (connectionPdus ((e.after steps).step t).2) = os at hstep
    cases hstep with
    | kept => exact .inl hs'
    | connected hconcludes hfree => exact absurd (hconnected.symm.trans hfree) Bool.noConfusion
    | disconnected hconcludes hbound =>
      rw [(h.recorded hconnected).listenerUniqueId_eq] at hs'
      obtain ⟨-, hentity, hunique⟩ := connected_of_isBoundTo hbound
      exact .inr ⟨hs', _, hconcludes, hentity.symm, hunique.symm⟩
  idle hidle := by
    have hfresh := h.fresh hidle
    have hcurrent : (e.after steps).model.sink? e.model.current u = some (.fresh u) :=
      hfresh ▸ h.current
    refine ⟨hfresh, ?_, fun p hp => ?_⟩
    · rw [streamId, sink, hcurrent]
      rfl
    · rw [Connection.Relay.describe, current_after, hp, hcurrent]
      rfl

end

/-- **Listener exclusivity**: after any run of an entity whose model was just built, every stream
input of the configuration in use has this history. -/
theorem sinkHistory_after {tree : Tree} {mac : Mac} {model : Model}
    (hbuild : Model.build tree mac = .ok model) (role : Role) (options : Options) (linkUp : Bool)
    {u : UInt16} (hu : (model.sink? model.current u).isSome) (steps : List Step) :
    ∃ s, ((start model role options linkUp).after steps).model.sink? model.current u = some s ∧
      (start model role options linkUp).SinkHistory u steps s := by
  obtain ⟨s₀, hs₀⟩ := Option.isSome_iff_exists.mp hu
  have hfresh := Model.sink?_of_build hbuild hs₀
  have hholds : (start model role options linkUp).connections.relay.HoldsCommands :=
    Connection.Relay.holdsCommands_start _
  obtain ⟨s, h⟩ := sinkInvariant_after (e := start model role options linkUp) hholds
    (hfresh ▸ hs₀) steps
  exact ⟨s, h.current, h.history hholds⟩

/-- A controller's command, and the talker's answer to it. -/
def answered : List Step :=
  [.setAcmpStarted true, .receive ((multicast (.duplex .connectRx 7)).frame .duplex) 0 true,
    .receive ((multicast { Pdu.duplex .connectTx 0 with
      messageType := .response .connectTx }).frame .duplex) 0 true]

/-- The answer connects the stream input. -/
theorem sinkHistory_answered :
    Model.build .duplex .duplex = .ok .duplex ∧ (Model.duplex.sink? 0 0).isSome ∧
      ∃ s, s.connected = true ∧
        (start .duplex .listener {} true).SinkHistory 0 answered s := by
  refine ⟨Model.build_duplex, rfl, ?_⟩
  obtain ⟨s, hs, h⟩ :=
    sinkHistory_after (u := 0) Model.build_duplex .listener {} true rfl answered
  have hconnected : (((start .duplex .listener {} true).after answered).model.sink? 0 0).map
      (·.connected) = some true := by decide +kernel
  refine ⟨s, ?_, h⟩
  exact Option.some.inj ((congrArg (Option.map _) hs).symm.trans hconnected)

end Endpoint

end AvbEntity

import AvbEntity.Proofs.Endpoint.Exclusivity
import AvbEntity.Proofs.Endpoint.Loopback
import AvbEntity.Proofs.Endpoint.StreamCounts

/-!
# A connection that is ended again

An entity on both sides can connect one of its stream inputs to one of its stream outputs, and end
the connection again. Each of the two commands goes from the listener to the talker and back, and a
controller is answered once. Afterwards nothing tells that the connection ever was, except that two
sequence numbers are used up.

This needs what is true of every state that the entity comes to: a stream input that is not
connected is as at the start. Ending the connection clears it, whatever it was before.

## Main definitions

* `Loopback.Settles`: what is on its way is delivered in any order until nothing is left
* `Endpoint.Completes`: the same for all that comes of one frame
* `Frame.Commands`, `Endpoint.Confirms`: a controller's command on a stream input and a stream
  output of the entity, and what answers it
* `Endpoint.Attains`: the states that an entity comes to
* `Sink.IsTidy`: what is true of the stream inputs in these states

## Main results

* `Connection.Manager.hops`: the way of a command through the entity
* `Endpoint.completes_command`: what comes of one command
* `Endpoint.Attains.isTidy`: the stream inputs of every state
* `Endpoint.restored_of_connected`: what comes of two commands
-/

namespace AvbEntity

open Connection (Exchange InFlight Manager Pdu Relay)

/-! ## What is put back -/

namespace Model

/-- The model with two streams of the configuration in use as given. -/
def withStreams (m : Model) (u v : UInt16) (s : Sink) (o : Source) : Model :=
  (m.modifySource m.current v fun _ => o).modifySink m.current u fun _ => s

@[simp] theorem current_withStreams (m : Model) (u v : UInt16) (s : Sink) (o : Source) :
    (m.withStreams u v s o).current = m.current := rfl

theorem sink?_withStreams {m : Model} {u : UInt16} {s₀ : Sink}
    (h : m.sink? m.current u = some s₀) (v : UInt16) (s : Sink) (o : Source) :
    (m.withStreams u v s o).sink? m.current u = some s := by
  rw [withStreams, sink?_modifySink, if_pos ⟨rfl, rfl⟩, sink?_modifySource, h]
  rfl

theorem source?_withStreams {m : Model} {v : UInt16} {o₀ : Source}
    (h : m.source? m.current v = some o₀) (u : UInt16) (s : Sink) (o : Source) :
    (m.withStreams u v s o).source? m.current v = some o := by
  rw [withStreams, source?_modifySink, source?_modifySource, if_pos ⟨rfl, rfl⟩, h]
  rfl

theorem withStreams_eq (m : Model) (u v : UInt16) (s : Sink) (o : Source) :
    m.withStreams u v s o = m.modify m.current fun c =>
      { c with
        sinks := c.sinks.modify u.toNat fun _ => s
        sources := c.sources.modify v.toNat fun _ => o } :=
  modify_modify ..

/-- Two streams that are put back as they were, whatever was made of them in between. -/
theorem withStreams_back {m : Model} {u v : UInt16} {s : Sink} {o : Source}
    (hs : m.sink? m.current u = some s) (ho : m.source? m.current v = some o) (s' : Sink)
    (o' : Source) : (m.withStreams u v s' o').withStreams u v s o = m := by
  rw [withStreams_eq, current_withStreams, withStreams_eq, modify_modify]
  refine modify_eq_self fun c hc => ?_
  have hsink : c.sinks[u.toNat]? = some s := by
    rwa [sink?, hc] at hs
  have hsource : c.sources[v.toNat]? = some o := by
    rwa [source?, hc] at ho
  have hsinks := modify_eq_of_getElem? hsink s'
  have hsources := modify_eq_of_getElem? hsource o'
  simp only [Function.comp_apply, hsinks, hsources]

end Model

/-- A listener that is disconnected again, and was not connected before. -/
theorem Source.disconnect_of_connect {s s' : Source} {l : Listener} (h : s.connect l = some s')
    (habsent : l ∉ s.listeners) : s'.disconnect l = some s := by
  rw [connect, Option.ite_none_right_eq_some] at h
  obtain ⟨hroom, hs'⟩ := h
  obtain rfl := Option.some.inj hs'
  have hcount : UInt16.ofNat ((s.connectionCount + 1).toNat - 1) = s.connectionCount := by
    rw [UInt16.toNat_add, UInt16.toNat_one, Nat.mod_eq_of_lt hroom, Nat.add_sub_cancel,
      UInt16.ofNat_toNat]
  -- the listener stands only at the end, so its first connection is the last
  have herase : (s.listeners ++ [l]).erase l = s.listeners := by
    rw [List.erase_append_right _ habsent, List.erase_cons_head, List.append_nil]
  rw [disconnect, if_pos (by simp)]
  simp only [hcount, herase]

namespace Connection

/-! ## From hop to hop -/

theorem Relay.request_of_insert {r : Relay} {m : Model} {p : Pdu} {x : Exchange} {now : Time}
    {s : Sink} {t : InFlight} {slot : Nat} (hs : m.sink? m.current p.listenerUniqueId = some s)
    (hrefusal : refusal s p x = none)
    (hinsert : r.inFlight.insert (r.entryFor p x now) = some (t, slot)) :
    r.request m p x now true =
      ({ inFlight := t, nextSequenceId := r.nextSequenceId + 1 }, [r.outgoing p x]) := by
  rw [request, hs]
  simp only [hrefusal, forward_eq, hinsert, if_true]

theorem Talker.respond_of_act {m : Model} {p answer : Pdu} {o o' : Source}
    (ho : m.source? m.current p.talkerUniqueId = some o) (hact : act o p = some (o', answer)) :
    respond m p = (m.modifySource m.current p.talkerUniqueId fun _ => o', [answer]) := by
  rw [respond, ho]
  simp only [hact]

theorem Relay.settle_of_take? {r : Relay} {m : Model} {p : Pdu} {x : Exchange} {s : Sink}
    {e : Entry} {t : InFlight} (hs : m.sink? m.current p.listenerUniqueId = some s)
    (htake : r.inFlight.take? (.command x) p.sequenceId = some (e, t)) :
    r.settle m p x = ({ r with inFlight := t },
      m.modifySink m.current p.listenerUniqueId fun _ => (conclude s p x).1,
      [reply s p x e]) := by
  rw [settle, hs]
  simp only [htake]
  rfl

namespace Manager

/-- Both sides are served, and there are slots with nothing in flight. -/
structure IsReady (c : Manager) : Prop where
  role : c.role = .both
  capacity : 0 < c.relay.inFlight.capacity
  isEmpty : c.relay.inFlight.isEmpty

/-- The manager after a command that was carried out. -/
def advanced (c : Manager) : Manager :=
  { c with relay := { c.relay with nextSequenceId := c.relay.nextSequenceId + 1 } }

theorem IsReady.advanced {c : Manager} (h : c.IsReady) : c.advanced.IsReady :=
  ⟨h.role, h.capacity, h.isEmpty⟩

/-- The way of a command through an entity on both sides, if nobody turns it down: the listener
passes it on, the talker answers it, and the listener settles the answer. -/
theorem hops {c : Manager} {m : Model} {p : Pdu} {x : Exchange} (hready : c.IsReady)
    (hx : x.IsRelayed) (htype : p.messageType = .command x.ofController)
    (hlistener : p.listenerEntityId = m.entityId) (htalker : p.talkerEntityId = m.entityId)
    {s : Sink} {o o' : Source} {answer : Pdu}
    (hs : m.sink? m.current p.listenerUniqueId = some s)
    (ho : m.source? m.current p.talkerUniqueId = some o) (hrefusal : Relay.refusal s p x = none)
    (hact : Talker.act o (c.relay.outgoing p x) = some (o', answer)) (now : Time) :
    ∃ (c₁ : Manager) (m₁ : Model) (reply : Pdu),
      c.handle m p now true = (c₁, m, [c.relay.outgoing p x]) ∧
      (∀ now, c₁.handle m (c.relay.outgoing p x) now true = (c₁, m₁, [answer])) ∧
      (∀ now, c₁.handle m₁ answer now true = (c.advanced,
        m.withStreams p.listenerUniqueId p.talkerUniqueId (Relay.conclude s answer x).1 o',
        [reply])) ∧
      reply.messageType = .response x.ofController ∧
      reply.status = (Relay.conclude s answer x).2 ∧ reply.sequenceId = p.sequenceId := by
  have hisTalker : c.role.isTalker := hready.role ▸ rfl
  have hisListener : c.role.isListener := hready.role ▸ rfl
  have hcommand : (c.relay.outgoing p x).messageType = .command x := rfl
  have hanswers := Talker.answers_of_act hx hcommand hact
  cases hinsert : c.relay.inFlight.insert (c.relay.entryFor p x now) with
  | none =>
    have hfull := InFlight.isFull_of_isEmpty hready.capacity hready.isEmpty
    exact absurd (InFlight.insert_eq_none.mp hinsert) (hfull ▸ Bool.false_ne_true)
  | some stored =>
    obtain ⟨t, slot⟩ := stored
    let c₁ : Manager := ⟨c.role, ⟨t, c.relay.nextSequenceId + 1⟩⟩
    let m₁ := m.modifySource m.current p.talkerUniqueId fun _ => o'
    have hs₁ : m₁.sink? m₁.current answer.listenerUniqueId = some s := by
      rw [Model.sink?_modifySource, hanswers.listenerUniqueId]
      exact hs
    -- there was no other command to take, so the slots are as they were
    have htake := InFlight.take?_insert hinsert fun e' he' =>
      absurd (InFlight.entries_eq_nil.mpr hready.isEmpty ▸ he') List.not_mem_nil
    have htake₁ : c₁.relay.inFlight.take? (.command x) answer.sequenceId =
        some (c.relay.entryFor p x now, c.relay.inFlight) := by
      rw [hanswers.sequenceId]
      exact htake
    have hrequest := handle_request now true hisListener hx htype hlistener
    have hrespond (now : Time) := handle_command (c := c₁) now true hisTalker hx hcommand htalker
    have hanswered := Talker.respond_of_act (p := c.relay.outgoing p x) ho hact
    have hsettle (now : Time) := handle_response (c := c₁) (m := m₁) now true hisListener hx
      hanswers.messageType (hanswers.listenerEntityId.trans hlistener)
    rw [Relay.request_of_insert hs hrefusal hinsert] at hrequest
    simp only [hanswered] at hrespond
    simp only [Relay.settle_of_take? hs₁ htake₁, hanswers.listenerUniqueId] at hsettle
    exact ⟨c₁, m₁, Relay.reply s answer x (c.relay.entryFor p x now), hrequest, hrespond, hsettle,
      rfl, rfl, rfl⟩

end Manager

end Connection

/-! ## What is on its way is delivered -/

/-- What is on its way is delivered, in any order, from anywhere and at any time, until nothing is
left. This comes to an end, and then `P` holds of the entity and of all that was sent; `sent` was
sent before. -/
inductive Loopback.Settles (P : Endpoint → List Outgoing → Prop) :
    Loopback → List Outgoing → Prop
  | quiet {l : Loopback} {sent : List Outgoing} (hquiet : l.undelivered = [])
    (h : P l.endpoint sent) : Settles P l sent
  | delivers {l : Loopback} {sent : List Outgoing} (hsome : l.undelivered ≠ [])
    (h : ∀ position o src now, l.undelivered[position]? = some o →
      Settles P (l.step (.deliver position src now))
        (sent ++ (l.endpoint.receive (o.frame src) now true).2)) :
    Settles P l sent

/-- The frame of a controller that commands an entity to connect one of its stream inputs to one of
its stream outputs, or to disconnect it. -/
structure Frame.Commands (frame : Frame) (entityId : Eui64) (p : Pdu) (x : Exchange)
    (u v : UInt16) : Prop where
  control : frame.isControl
  decode : Pdu.decode frame.payload = .ok p
  messageType : p.messageType = .command x
  listenerEntityId : p.listenerEntityId = entityId
  listenerUniqueId : p.listenerUniqueId = u
  talkerEntityId : p.talkerEntityId = entityId
  talkerUniqueId : p.talkerUniqueId = v

namespace Endpoint

/-- A frame is received while nothing is on its way, and all that is sent in turn is delivered until
nothing is left; then `P` holds of the entity and of all that was sent. -/
def Completes (e : Endpoint) (frame : Frame) (now : Time)
    (P : Endpoint → List Outgoing → Prop) : Prop :=
  Loopback.Settles P (.step ⟨e, []⟩ (.command frame now)) (e.receive frame now true).2

/-- Of all that was sent, one PDU answers a controller, and it reports the success of its
command. -/
def Confirms (p : Pdu) (x : Exchange) (sent : List Outgoing) : Prop :=
  ∃ reply, (connectionPdus sent).filter (·.messageType.isReply) = [reply] ∧
    reply.messageType = .response x ∧ reply.status = .success ∧ reply.sequenceId = p.sequenceId

end Endpoint

namespace Loopback

variable {P Q : Endpoint → List Outgoing → Prop}

theorem Settles.mono {l : Loopback} {sent : List Outgoing} (h : l.Settles P sent)
    (hPQ : ∀ e sent, P e sent → Q e sent) : l.Settles Q sent := by
  induction h with
  | quiet hquiet h => exact .quiet hquiet (hPQ _ _ h)
  | delivers hsome h ih => exact .delivers hsome ih

/-- One PDU is on its way, and the manager handles it at any time alike. -/
theorem settles_of_handle {e : Endpoint} {q : Pdu} {c : Manager} {m : Model} {qs : List Pdu}
    {sent : List Outgoing} (hstarted : e.acmpStarted) (hq : q.received = q)
    (hhandle : ∀ now, e.connections.handle e.model q now true = (c, m, qs))
    (h : Settles P ⟨{ e with connections := c, model := m }, qs.map Endpoint.multicast⟩
      (sent ++ qs.map Endpoint.multicast)) :
    Settles P ⟨e, [Endpoint.multicast q]⟩ sent := by
  refine .delivers (List.cons_ne_nil _ _) fun position o src now ho => ?_
  obtain ⟨hlt, rfl⟩ := List.getElem?_eq_some_iff.mp ho
  obtain rfl : position = 0 := Nat.lt_one_iff.mp hlt
  have hcontrol : ((Endpoint.multicast q).frame src).isControl := beq_self_eq_true _
  have hdecode := Endpoint.decode_multicast q
  rw [hq] at hdecode
  have hreceive := Endpoint.receive_of_decode hcontrol hstarted hdecode now true
  rw [hhandle now] at hreceive
  simp only [step, List.getElem?_cons_zero, List.getElem_cons_zero, hreceive]
  exact h

end Loopback

namespace Endpoint

variable {P Q : Endpoint → List Outgoing → Prop}

theorem Completes.mono {e : Endpoint} {frame : Frame} {now : Time} (h : e.Completes frame now P)
    (hPQ : ∀ e sent, P e sent → Q e sent) : e.Completes frame now Q :=
  Loopback.Settles.mono h hPQ

/-! ## One command -/

/-- The entity after a command that made `s` of the stream input and `o` of the stream output. -/
def carriedOut (e : Endpoint) (u v : UInt16) (s : Sink) (o : Source) : Endpoint :=
  { e with connections := e.connections.advanced, model := e.model.withStreams u v s o }

/-- What comes of a command that nobody turns down. -/
theorem completes_command {e : Endpoint} {frame : Frame} {p : Pdu} {x : Exchange} {u v : UInt16}
    (hready : e.connections.IsReady) (hstarted : e.acmpStarted) (hx : x.IsRelayed)
    (hframe : frame.Commands e.model.entityId p x.ofController u v) {s s' : Sink} {o o' : Source}
    {answer : Pdu}
    (hs : e.model.sink? e.model.current u = some s)
    (ho : e.model.source? e.model.current v = some o) (hrefusal : Relay.refusal s p x = none)
    (hact : Connection.Talker.act o (e.connections.relay.outgoing p x) = some (o', answer))
    (hstatus : answer.status = .success) (hconclude : Relay.conclude s answer x = (s', .success))
    (now : Time) :
    e.Completes frame now fun e' sent =>
      e' = e.carriedOut u v s' o' ∧ Confirms p x.ofController sent := by
  obtain ⟨hcontrol, hdecode, htype, hlistener, rfl, htalker, rfl⟩ := hframe
  obtain ⟨c₁, m₁, reply, hrequest, hrespond, hsettle, hreplyType, hreplyStatus, hreplyId⟩ :=
    Manager.hops hready hx htype hlistener htalker hs ho hrefusal hact now
  rw [hconclude] at hsettle hreplyStatus
  have hisReply : reply.messageType.isReply :=
    hreplyType ▸ Connection.MessageType.isReply_ofController x
  have hanswerType := (Connection.Talker.answers_of_act hx rfl hact).messageType
  have hreceived {q : Pdu} (hq : q.status = .success) : q.received = q :=
    Pdu.received_eq_self (hq ▸ by decide)
  rw [Completes, Loopback.step, List.nil_append, receive_of_decode hcontrol hstarted hdecode,
    hrequest]
  refine Loopback.settles_of_handle hstarted (hreceived rfl) hrespond ?_
  refine Loopback.settles_of_handle hstarted (hreceived hstatus) hsettle ?_
  refine Loopback.settles_of_handle hstarted (hreceived hreplyStatus)
    (fun now => Manager.handle_reply now true hisReply) ?_
  refine .quiet rfl ⟨rfl, reply, ?_, hreplyType, hreplyStatus, hreplyId⟩
  have hisPassed : (e.connections.relay.outgoing p x).messageType.isReply = false := rfl
  have hisAnswer : answer.messageType.isReply = false := by
    rw [hanswerType]
    rcases hx with rfl | rfl <;> rfl
  show (connectionPdus ([e.connections.relay.outgoing p x, answer, reply].map multicast)).filter
    (·.messageType.isReply) = [reply]
  rw [connectionPdus_multicast]
  simp [hreceived hstatus, hreceived hreplyStatus, hisPassed, hisAnswer, hisReply]

/-! ## Every state -/

/-- The states that an entity comes to: by its steps, and when the application resets the streams.
Nobody else changes a stream. -/
inductive Attains (e₀ : Endpoint) : Endpoint → Prop
  | start : Attains e₀ e₀
  | step {e : Endpoint} (h : Attains e₀ e) (t : Step) : Attains e₀ (e.step t).1
  | resetStreams {e : Endpoint} (h : Attains e₀ e) : Attains e₀ e.resetStreams

end Endpoint

/-- A stream input has its own number, and without a connection it is as at the start. -/
structure Sink.IsTidy (u : UInt16) (s : Sink) : Prop where
  listenerUniqueId : s.listenerUniqueId = u
  eq_fresh : s.connected = false → s = .fresh u

theorem Sink.isTidy_fresh (u : UInt16) : (fresh u).IsTidy u :=
  ⟨rfl, fun _ => rfl⟩

namespace Endpoint

variable {e e₀ : Endpoint} {u : UInt16}

/-- What a step does to a stream input keeps it tidy. -/
theorem SinkStep.isTidy {t : Step} {s s' : Sink} {os : List Bool} (h : e.SinkStep u t s s' os)
    (hs : s.IsTidy u) : s'.IsTidy u := by
  cases h with
  | kept => exact hs
  | @connected p hconcludes hfree =>
    obtain rfl := hs.eq_fresh hfree
    exact ⟨rfl, fun hunconnected => absurd hunconnected Bool.noConfusion⟩
  | disconnected hconcludes hbound =>
    rw [hs.listenerUniqueId]
    exact Sink.isTidy_fresh u

namespace Attains

theorem role_eq (h : Attains e₀ e) : e.connections.role = e₀.connections.role := by
  induction h with
  | start => rfl
  | step h t ih => rw [role_step, ih]
  | resetStreams h ih => exact ih

theorem holdsCommands (h : Attains e₀ e) (hholds : e₀.connections.relay.HoldsCommands) :
    e.connections.relay.HoldsCommands := by
  induction h with
  | start => exact hholds
  | step h t ih => exact holdsCommands_step ih t
  | resetStreams h ih => exact ih

/-- The stream inputs of the configuration in use are tidy in every state, if they are so at the
start. -/
theorem isTidy (h : Attains e₀ e) (hholds : e₀.connections.relay.HoldsCommands)
    (htidy : ∀ s, e₀.model.sink? e₀.model.current u = some s → s.IsTidy u) :
    ∀ s, e.model.sink? e.model.current u = some s → s.IsTidy u := by
  induction h with
  | start => exact htidy
  | @step e h t ih =>
    intro s' hs'
    rw [current_step] at hs'
    have hsome : (e.model.sink? e.model.current u).isSome := by
      rw [← Model.isSome_sink?_shape, ← shape_step e t, Model.isSome_sink?_shape, hs']
      rfl
    obtain ⟨s, hs⟩ := Option.isSome_iff_exists.mp hsome
    obtain ⟨s'', hs'', hstep⟩ := sinkStep (h.holdsCommands hholds) t hs
    obtain rfl := Option.some.inj (hs''.symm.trans hs')
    exact hstep.isTidy (ih s hs)
  | resetStreams h ih =>
    intro s hs
    rw [Model.sink?_resetStreams hs]
    exact Sink.isTidy_fresh u

end Attains

/-! ## Two commands -/

section

variable {frame : Frame} {p : Pdu} {v : UInt16} {o o' : Source}

/-- What comes of a command to connect a stream input that is as at the start. -/
theorem completes_connect (hready : e.connections.IsReady) (hstarted : e.acmpStarted)
    (hframe : frame.Commands e.model.entityId p .connectRx u v)
    (hs : e.model.sink? e.model.current u = some (.fresh u))
    (ho : e.model.source? e.model.current v = some o)
    (hconnect : o.connect ⟨e.model.entityId, u⟩ = some o') (now : Time) :
    e.Completes frame now fun e' sent => (∃ answer : Pdu,
      answer.talkerEntityId = e.model.entityId ∧ answer.talkerUniqueId = v ∧
        e' = e.carriedOut u v (.recorded u answer) o') ∧ Confirms p .connectRx sent := by
  let command := e.connections.relay.outgoing p .connectTx
  let answer := Connection.Talker.describe (command.respond .success) o'
  have hlistener : Connection.Talker.listener command = ⟨e.model.entityId, u⟩ := by
    rw [Connection.Talker.listener, ← hframe.listenerEntityId, ← hframe.listenerUniqueId]
    rfl
  have hact : Connection.Talker.act o command = some (o', answer) := by
    show some (Connection.Talker.connect o command) = _
    rw [Connection.Talker.connect, hlistener, hconnect]
  have hcompletes := completes_command (x := .connectTx) hready hstarted (.inl rfl) hframe hs ho rfl
    hact rfl rfl now
  exact hcompletes.mono fun e' sent h =>
    ⟨⟨answer, hframe.talkerEntityId, hframe.talkerUniqueId, h.1⟩, h.2⟩

/-- What comes of a command to disconnect a stream input from the stream output that it is connected
to. -/
theorem completes_disconnect (hready : e.connections.IsReady) (hstarted : e.acmpStarted)
    (hframe : frame.Commands e.model.entityId p .disconnectRx u v) {recorded : Pdu}
    (hentityId : recorded.talkerEntityId = e.model.entityId)
    (huniqueId : recorded.talkerUniqueId = v)
    (hs : e.model.sink? e.model.current u = some (.recorded u recorded))
    (ho : e.model.source? e.model.current v = some o)
    (hdisconnect : o.disconnect ⟨e.model.entityId, u⟩ = some o') (now : Time) :
    e.Completes frame now fun e' sent =>
      e' = e.carriedOut u v (.fresh u) o' ∧ Confirms p .disconnectRx sent := by
  let command := e.connections.relay.outgoing p .disconnectTx
  let answer : Pdu := { command.respond .success with connectionCount := o'.connectionCount }
  have hlistener : Connection.Talker.listener command = ⟨e.model.entityId, u⟩ := by
    rw [Connection.Talker.listener, ← hframe.listenerEntityId, ← hframe.listenerUniqueId]
    rfl
  have hact : Connection.Talker.act o command = some (o', answer) := by
    show some (Connection.Talker.disconnect o command) = _
    rw [Connection.Talker.disconnect, hlistener, hdisconnect]
    rfl
  have hbound : (Sink.recorded u recorded).isBoundTo p.talkerEntityId p.talkerUniqueId := by
    rw [hframe.talkerEntityId, hframe.talkerUniqueId, ← hentityId, ← huniqueId]
    simp [Sink.isBoundTo, Sink.recorded]
  have hrefusal : Relay.refusal (.recorded u recorded) p .disconnectTx = none := by
    rw [Relay.refusal, if_pos hbound]
  have hconclude : Relay.conclude (.recorded u recorded) answer .disconnectTx =
      (.fresh u, .success) := by
    show Sink.unbind (.recorded u recorded) answer = _
    rw [Sink.unbind]
    exact if_pos hbound
  exact completes_command (x := .disconnectTx) hready hstarted (.inr rfl) hframe hs ho hrefusal hact
    rfl hconclude now

end

/-- **Connecting and disconnecting restores everything**: in every state of an entity on both sides
that has nothing in flight, a stream input that is not connected is connected to a stream output and
disconnected again, by any two controllers. All that is sent is delivered, in any order and at any
time, until nothing is left; each of the two is answered once, and with success. Afterwards the
entity is as it was, but for two sequence numbers. -/
theorem restored_of_connected {tree : Tree} {mac : Mac} {model : Model}
    (hbuild : Model.build tree mac = .ok model) (options : Options) (linkUp : Bool)
    (h : (start model .both options linkUp).Attains e)
    (hcapacity : 0 < e.connections.relay.inFlight.capacity)
    (hempty : e.connections.relay.inFlight.isEmpty) {v : UInt16} {s : Sink} {o : Source}
    (hs : e.model.sink? e.model.current u = some s) (hunconnected : s.connected = false)
    (ho : e.model.source? e.model.current v = some o)
    (habsent : ⟨e.model.entityId, u⟩ ∉ o.listeners)
    (hroom : o.connectionCount.toNat < Source.maxListeners)
    {connect disconnect : Frame} {p q : Pdu}
    (hconnect : connect.Commands e.model.entityId p .connectRx u v)
    (hdisconnect : disconnect.Commands e.model.entityId q .disconnectRx u v) (now now' : Time) :
    (e.setAcmpStarted true).Completes connect now fun e₁ sent₁ => Confirms p .connectRx sent₁ ∧
      e₁.Completes disconnect now' fun e₂ sent₂ => Confirms q .disconnectRx sent₂ ∧
        e₂ = { e with
          acmpStarted := true
          connections := { e.connections with
            relay := { e.connections.relay with
              nextSequenceId := e.connections.relay.nextSequenceId + 2 } } } := by
  have hready : e.connections.IsReady := ⟨h.role_eq, hcapacity, hempty⟩
  have htidy := h.isTidy (Connection.Relay.holdsCommands_start _) (u := u) fun s hs => by
    rw [Model.sink?_of_build hbuild hs]
    exact Sink.isTidy_fresh u
  obtain rfl := (htidy s hs).eq_fresh hunconnected
  obtain ⟨o', hgrows⟩ : ∃ o', o.connect ⟨e.model.entityId, u⟩ = some o' :=
    ⟨_, if_pos (Nat.succ_lt_succ hroom)⟩
  have hback := Source.disconnect_of_connect hgrows habsent
  have hconnects := completes_connect (e := e.setAcmpStarted true) hready rfl hconnect hs ho hgrows
    now
  refine hconnects.mono ?_
  rintro e₁ sent₁ ⟨⟨recorded, hentityId, huniqueId, rfl⟩, hconfirms⟩
  refine ⟨hconfirms, ?_⟩
  have hs₁ := Model.sink?_withStreams hs v (.recorded u recorded) o'
  have ho₁ := Model.source?_withStreams ho u (.recorded u recorded) o'
  have hdisconnects := completes_disconnect (e := (e.setAcmpStarted true).carriedOut u v _ o')
    hready.advanced rfl hdisconnect hentityId huniqueId hs₁ ho₁ hback now'
  refine hdisconnects.mono ?_
  rintro e₂ sent₂ ⟨rfl, hconfirms'⟩
  refine ⟨hconfirms', ?_⟩
  have hmodel := Model.withStreams_back hs ho (.recorded u recorded) o'
  have hnumbers : e.connections.relay.nextSequenceId + 1 + 1 =
      e.connections.relay.nextSequenceId + 2 := UInt16.add_assoc ..
  simp only [carriedOut, setAcmpStarted, Manager.advanced, hmodel, hnumbers]

/-- The entity with one stream on either side, after another stream input was connected. -/
def attended : Endpoint :=
  (start .duplex .both {} true).after [.setAcmpStarted true,
    .receive ((multicast { Pdu.duplex .connectTx 0 with listenerUniqueId := 1 }).frame .duplex) 0
      true]

theorem commands_duplex (x : Exchange) (sequenceId : UInt16) :
    ((multicast (.duplex x sequenceId)).frame .duplex).Commands Model.duplex.entityId
      (.duplex x sequenceId) x 0 0 :=
  ⟨rfl, decode_multicast _, rfl, rfl, rfl, rfl, rfl⟩

/-- The other stream input stays connected. -/
theorem restored_attended :
    Model.build .duplex .duplex = .ok .duplex ∧
      (attended.model.source? 0 0).map (·.listeners) = some [⟨Model.duplex.entityId, 1⟩] ∧
      (attended.setAcmpStarted true).Completes
        ((multicast (.duplex .connectRx 7)).frame .duplex) 0 fun e₁ sent₁ =>
        Confirms (.duplex .connectRx 7) .connectRx sent₁ ∧
        e₁.Completes ((multicast (.duplex .disconnectRx 8)).frame .duplex) 5 fun e₂ sent₂ =>
          Confirms (.duplex .disconnectRx 8) .disconnectRx sent₂ ∧
            e₂.model = attended.model ∧ e₂.connections.relay.nextSequenceId = 2 := by
  have hattains : (start .duplex .both {} true).Attains attended :=
    (Attains.start.step (.setAcmpStarted true)).step _
  have hid : attended.model.entityId = Model.duplex.entityId := by decide +kernel
  have hcommands (x : Exchange) (sequenceId : UInt16) := hid ▸ commands_duplex x sequenceId
  have hsink : attended.model.sink? attended.model.current 0 = some (.fresh 0) := by
    decide +kernel
  have hsource : attended.model.source? attended.model.current 0 =
      some { Source.fresh 0 with
        connectionCount := 1
        listeners := [⟨Model.duplex.entityId, 1⟩] } := by
    decide +kernel
  refine ⟨Model.build_duplex, congrArg (Option.map _) hsource, ?_⟩
  have hrestored := restored_of_connected Model.build_duplex {} true hattains (by decide +kernel)
    (by decide +kernel) hsink rfl hsource (by decide +kernel) (by decide) (hcommands .connectRx 7)
    (hcommands .disconnectRx 8) 0 5
  refine hrestored.mono fun e₁ sent₁ h₁ => ⟨h₁.1, h₁.2.mono fun e₂ sent₂ h₂ => ⟨h₂.1, ?_⟩⟩
  rw [h₂.2]
  exact ⟨rfl, by decide +kernel⟩

end Endpoint

end AvbEntity

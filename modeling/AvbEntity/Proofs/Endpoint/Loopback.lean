import AvbEntity.Proofs.Connection.Agreement
import AvbEntity.Proofs.Endpoint.Run
import AvbEntity.Proofs.Model.Build
import Mathlib.Data.List.Perm.Basic

/-!
# An entity that is connected to itself

An entity on both sides hears what it multicasts. Controllers send it commands that name it twice,
and each of its own frames is delivered to it once, in whatever order. When nothing is on its way
any more, the tables of the two sides can be compared.

They agree on a stream input as long as no two commands on it are on their way at once. Commands
that race each other can leave them apart: the talker does not ask whether it has a connection
already, and the listener that turns an answer down does not take the connection back. How far
apart they are is what was counted on the way.

## Main definitions

* `Loopback`, `Loopback.Event`, `Loopback.step`, `Loopback.after`: the entity with the frames that
  are on their way, and its runs
* `Loopback.tally`: how often something was delivered in a run
* `Loopback.RaceFree`: no two commands on a stream input are ever on their way at once

## Main results

* `Loopback.stepped`: what an event can do
* `Loopback.account_after`: the account of a run
* `Loopback.tally_of_raceFree`: without races nothing is counted
* `Loopback.held_of_quiet`: how the two tables agree when nothing is on its way
-/

namespace AvbEntity

open Connection (Entry Exchange InFlight Manager Pdu Relay)

/-- An entity on both sides, and those of its frames that were not delivered to it yet. -/
structure Loopback where
  endpoint : Endpoint
  undelivered : List Outgoing

namespace Loopback

/-! ## Runs -/

/-- Connection management is running, and nothing is on its way. -/
def start (model : Model) (options : Options) (linkUp : Bool) : Loopback where
  endpoint := (Endpoint.start model .both options linkUp).setAcmpStarted true
  undelivered := []

/-- The frame of a controller, or one of the undelivered frames. -/
inductive Event where
  | command (frame : Frame) (now : Time)
  | deliver (position : Nat) (src : Mac) (now : Time)

/-- The entity after an event. What it sends in turn is accepted by the network, and is on its way
then. -/
def step (l : Loopback) : Event → Loopback
  | .command frame now =>
    { endpoint := (l.endpoint.receive frame now true).1
      undelivered := l.undelivered ++ (l.endpoint.receive frame now true).2 }
  | .deliver position src now =>
    match l.undelivered[position]? with
    | none => l
    | some o =>
      { endpoint := (l.endpoint.receive (o.frame src) now true).1
        undelivered := l.undelivered.eraseIdx position ++
          (l.endpoint.receive (o.frame src) now true).2 }

/-- The entity after a run. -/
def after (l : Loopback) (run : List Event) : Loopback :=
  run.foldl step l

/-- A controller's frame commands to connect or to disconnect, and names the entity as the listener
and as the talker. -/
def IsCommand (entityId : Eui64) (frame : Frame) : Prop :=
  frame.isControl ∧ ∃ p, Pdu.decode frame.payload = .ok p ∧ p.messageType.isRequest ∧
    p.listenerEntityId = entityId ∧ p.talkerEntityId = entityId

/-- Nothing but such commands comes from controllers. -/
def Admits (l : Loopback) (run : List Event) : Prop :=
  ∀ frame now, .command frame now ∈ run → IsCommand l.endpoint.model.entityId frame

/-- The PDUs that are on their way. -/
def pdus (l : Loopback) : List Pdu :=
  connectionPdus l.undelivered

/-- The PDU that an event delivers to the entity that sent it. -/
def delivered? (l : Loopback) : Event → Option Pdu
  | .command _ _ => none
  | .deliver position _ _ =>
    l.undelivered[position]?.bind fun o => (Pdu.decode o.payload).toOption

/-- An event delivers something that is counted. -/
def counts (l : Loopback) (f : Model → Pdu → Bool) (ev : Event) : Nat :=
  ((l.delivered? ev).map fun p => (f l.endpoint.model p).toNat).getD 0

/-- How often a run delivers something that is counted. -/
def tally (l : Loopback) (f : Model → Pdu → Bool) : List Event → Nat
  | [] => 0
  | ev :: run => l.counts f ev + (l.step ev).tally f run

/-! ## What an event can do -/

/-- What is true of the entity at any time: it acts on both sides, it sent all that is on its way,
and the commands in flight are those to which a PDU on its way belongs. -/
structure Coherent (l : Loopback) : Prop where
  role : l.endpoint.connections.role = .both
  started : l.endpoint.acmpStarted = true
  decodes : ∀ o ∈ l.undelivered, ∃ p, Pdu.decode o.payload = .ok p
  own : ∀ p ∈ l.pdus, p.IsOwn l.endpoint.model
  keys : (l.endpoint.connections.relay.inFlight.entries.map Entry.key).Perm
    (l.pdus.filterMap Pdu.key?)

/-- What an event can do: to what is on its way, to the commands in flight, and to the model. -/
inductive Stepped (l : Loopback) (ev : Event) (l' : Loopback) : Prop
  /-- Nothing was delivered. -/
  | missing (hdelivered : l.delivered? ev = none) (h : l' = l)
  /-- The answer to a controller was delivered. -/
  | replied {p : Pdu} (hdelivered : l.delivered? ev = some p) (hpdus : l.pdus.Perm (p :: l'.pdus))
    (htype : p.messageType.isReply) (hendpoint : l'.endpoint = l.endpoint)
  /-- A command was delivered, and the talker answers it. -/
  | told {p answer : Pdu} {rest : List Pdu} {x : Exchange} (hdelivered : l.delivered? ev = some p)
    (hpdus : l.pdus.Perm (p :: rest)) (hx : x.IsRelayed) (htype : p.messageType = .command x)
    (hinternal : p.IsInternal l.endpoint.model) (hanswers : p.Answers answer x)
    (hpdus' : l'.pdus.Perm (answer.received :: rest))
    (haccount : ∀ u v, l'.endpoint.model.held u v +
        (answer.received.reports u v .disconnectTx).toNat =
      (answer.received.reports u v .connectTx).toNat + (p.isVain l.endpoint.model u v).toNat +
        l.endpoint.model.held u v)
    (hendpoint : l'.endpoint =
      { l.endpoint with model := (Connection.Talker.respond l.endpoint.model p).1 })
  /-- An answer was delivered, and the listener settles it. -/
  | settled {p reply : Pdu} {rest : List Pdu} {x : Exchange} {e : Entry} {t : InFlight}
    (hdelivered : l.delivered? ev = some p) (hpdus : l.pdus.Perm (p :: rest)) (hx : x.IsRelayed)
    (htype : p.messageType = .response x) (hinternal : p.IsInternal l.endpoint.model)
    (hreply : reply.messageType.isReply) (hpdus' : l'.pdus.Perm (reply :: rest))
    (hperm : l.endpoint.connections.relay.inFlight.entries.Perm (e :: t.entries))
    (hfor : e.isFor (.command x) p.sequenceId)
    (haccount : ∀ u v, (p.isLate l.endpoint.model u v).toNat + l.endpoint.model.bound u v +
        (p.reports u v .connectTx).toNat =
      l'.endpoint.model.bound u v + (p.isOverbooking l.endpoint.model u v).toNat +
        (p.reports u v .disconnectTx).toNat)
    (hendpoint : l'.endpoint =
      { l.endpoint with
        connections := { l.endpoint.connections with
          relay := { l.endpoint.connections.relay with inFlight := t } }
        model := (l.endpoint.connections.relay.settle l.endpoint.model p x).2.1 })
  /-- A controller's command was refused. -/
  | refused {reply : Pdu} (hdelivered : l.delivered? ev = none)
    (hpdus' : l'.pdus.Perm (reply :: l.pdus)) (hreply : reply.messageType.isReply)
    (hendpoint : l'.endpoint = l.endpoint)
  /-- A controller's command was passed on to the talker. -/
  | forwarded {command : Pdu} {x : Exchange} {s : Sink} {e : Entry} {r : Relay}
    (hdelivered : l.delivered? ev = none) (hpdus' : l'.pdus.Perm (command :: l.pdus))
    (hx : x.IsRelayed) (htype : command.messageType = .command x)
    (hinternal : command.IsInternal l.endpoint.model)
    (hsink : l.endpoint.model.sink? l.endpoint.model.current command.listenerUniqueId = some s)
    (hrefusal : Relay.refusal s command x = none)
    (hperm : r.inFlight.entries.Perm (e :: l.endpoint.connections.relay.inFlight.entries))
    (hkey : e.key = (.command x, command.sequenceId))
    (hendpoint : l'.endpoint =
      { l.endpoint with connections := { l.endpoint.connections with relay := r } })

theorem connectionPdus_eraseIdx {os : List Outgoing} {position : Nat} {o : Outgoing} {p : Pdu}
    (ho : os[position]? = some o) (hp : Pdu.decode o.payload = .ok p) :
    (connectionPdus os).Perm (p :: connectionPdus (os.eraseIdx position)) := by
  obtain ⟨hlt, rfl⟩ := List.getElem?_eq_some_iff.mp ho
  have hperm := (List.getElem_cons_eraseIdx_perm hlt).filterMap
    fun o => (Pdu.decode o.payload).toOption
  rw [List.filterMap_cons, hp] at hperm
  exact hperm.symm

section

variable {l : Loopback}

/-- What the manager makes of a frame that a step receives. -/
theorem receive_eq (h : l.Coherent) {frame : Frame} {p : Pdu} (hcontrol : frame.isControl)
    (hdecode : Pdu.decode frame.payload = .ok p) (now : Time) :
    (l.endpoint.receive frame now true).1 =
        { l.endpoint with
          connections := (l.endpoint.connections.handle l.endpoint.model p now true).1
          model := (l.endpoint.connections.handle l.endpoint.model p now true).2.1 } ∧
      connectionPdus (l.endpoint.receive frame now true).2 =
        (l.endpoint.connections.handle l.endpoint.model p now true).2.2.map (·.received) := by
  rw [Endpoint.receive_of_decode hcontrol h.started hdecode, connectionPdus_multicast]
  exact ⟨rfl, rfl⟩

/-- The command of an answer that is on its way is in flight. -/
theorem Coherent.exists_entry (h : l.Coherent) {p : Pdu} (hp : p ∈ l.pdus) {x : Exchange}
    (hx : x.IsRelayed) (htype : p.messageType = .response x) :
    ∃ e ∈ l.endpoint.connections.relay.inFlight.entries, e.isFor (.command x) p.sequenceId := by
  have hkey : p.key? = some (.command x, p.sequenceId) := Pdu.key?_of_exchange hx (htype ▸ rfl)
  have hmem : (.command x, p.sequenceId) ∈
      l.endpoint.connections.relay.inFlight.entries.map Entry.key :=
    h.keys.mem_iff.mpr (List.mem_filterMap.mpr ⟨p, hp, hkey⟩)
  obtain ⟨e, he, hekey⟩ := List.mem_map.mp hmem
  exact ⟨e, he, Connection.Entry.isFor_iff.mpr (Prod.mk.inj hekey)⟩

/-- What a PDU leads to that was taken from those on their way. -/
theorem stepped_of_delivered (h : l.Coherent) {ev : Event} {l' : Loopback} {p : Pdu}
    {rest : List Pdu} {now : Time} (hdelivered : l.delivered? ev = some p)
    (hpdus : l.pdus.Perm (p :: rest))
    (hpdus' : l'.pdus = rest ++
      (l.endpoint.connections.handle l.endpoint.model p now true).2.2.map (·.received))
    (hendpoint' : l'.endpoint =
      { l.endpoint with
        connections := (l.endpoint.connections.handle l.endpoint.model p now true).1
        model := (l.endpoint.connections.handle l.endpoint.model p now true).2.1 }) :
    l.Stepped ev l' := by
  have hrole : l.endpoint.connections.role.isTalker ∧ l.endpoint.connections.role.isListener := by
    rw [h.role]
    exact ⟨rfl, rfl⟩
  rcases h.own p (hpdus.mem_iff.mpr List.mem_cons_self) with
    htype | ⟨hx, htype, hinternal⟩ | ⟨hx, htype, hinternal⟩
  · rw [Manager.handle_reply now true htype] at hpdus' hendpoint'
    rw [List.map_nil, List.append_nil] at hpdus'
    exact .replied hdelivered (hpdus' ▸ hpdus) htype hendpoint'
  · rw [Manager.handle_command now true hrole.1 hx htype hinternal.talker] at hpdus' hendpoint'
    obtain ⟨answer, hanswer, hanswers, haccount⟩ :=
      Connection.Talker.respond_account hx htype hinternal.listener
    refine .told hdelivered hpdus hx htype hinternal hanswers ?_ (fun u v => ?_) hendpoint'
    · rw [hpdus', hanswer]
      exact List.perm_append_singleton ..
    · rw [hendpoint']
      exact haccount u v
  · rw [Manager.handle_response now true hrole.2 hx htype hinternal.listener] at hpdus' hendpoint'
    obtain ⟨e, t, reply, hrelay, hsent, hperm, hfor, hreply, haccount⟩ :=
      Relay.settle_account hx htype hinternal.talker hinternal.sink
        (h.exists_entry (hpdus.mem_iff.mpr List.mem_cons_self) hx htype)
    have hreply' : reply.received.messageType.isReply := hreply
    rw [hrelay] at hendpoint'
    refine .settled hdelivered hpdus hx htype hinternal hreply' ?_ hperm hfor (fun u v => ?_)
      hendpoint'
    · rw [hpdus', hsent]
      exact List.perm_append_singleton ..
    · rw [hendpoint']
      exact haccount u v

theorem stepped_deliver (h : l.Coherent) (position : Nat) (src : Mac) (now : Time) :
    l.Stepped (.deliver position src now) (l.step (.deliver position src now)) := by
  cases ho : l.undelivered[position]? with
  | none =>
    refine .missing ?_ ?_
    · rw [delivered?, ho, Option.bind_none]
    · simp only [step, ho]
  | some o =>
    obtain ⟨p, hdecode⟩ := h.decodes o (List.mem_of_getElem? ho)
    have hdelivered : l.delivered? (.deliver position src now) = some p := by
      rw [delivered?, ho, Option.bind_some, hdecode]
      rfl
    have hframe : Pdu.decode (o.frame src).payload = .ok p := hdecode
    obtain ⟨hendpoint, hsent⟩ := receive_eq h (beq_self_eq_true _) hframe now
    have hstep : l.step (.deliver position src now) =
        ⟨(l.endpoint.receive (o.frame src) now true).1, l.undelivered.eraseIdx position ++
          (l.endpoint.receive (o.frame src) now true).2⟩ := by
      simp only [step, ho]
    refine stepped_of_delivered h hdelivered (connectionPdus_eraseIdx ho hdecode) ?_
      ((congrArg Loopback.endpoint hstep).trans hendpoint)
    rw [hstep, pdus, connectionPdus_append, hsent]

theorem stepped_command (h : l.Coherent) {frame : Frame}
    (hframe : IsCommand l.endpoint.model.entityId frame) (now : Time) :
    l.Stepped (.command frame now) (l.step (.command frame now)) := by
  obtain ⟨hcontrol, p, hdecode, hrequest, hlistener, htalker⟩ := hframe
  obtain ⟨hendpoint, hsent⟩ := receive_eq h hcontrol hdecode now
  have hrole : l.endpoint.connections.role.isListener := by
    rw [h.role]
    rfl
  obtain ⟨x, hx, htype⟩ := Connection.MessageType.exists_of_isRequest hrequest
  have hrespond : ∀ status, (p.respond status).received.messageType.isReply := by
    intro status
    rw [Pdu.received_messageType, Pdu.messageType_respond htype]
    exact Connection.MessageType.isReply_ofController x
  rw [Manager.handle_request now true hrole hx htype hlistener] at hendpoint hsent
  have hpdus' : (l.step (.command frame now)).pdus = l.pdus ++
      (l.endpoint.connections.relay.request l.endpoint.model p x now true).2.map (·.received) := by
    rw [step, pdus, connectionPdus_append, hsent]
    rfl
  have hendpoint' : (l.step (.command frame now)).endpoint = _ := hendpoint
  generalize l.step (.command frame now) = l' at hpdus' hendpoint' ⊢
  have hend := l.endpoint.connections.relay.requested l.endpoint.model p x now true
  generalize l.endpoint.connections.relay.request l.endpoint.model p x now true = result
    at hend hpdus' hendpoint'
  -- the network accepts what is sent, so a command that is stored is on its way
  cases hend with
  | unknown hsink =>
    exact .refused rfl (hpdus' ▸ List.perm_append_singleton ..) (hrespond _) hendpoint'
  | refused hsink hrefusal =>
    exact .refused rfl (hpdus' ▸ List.perm_append_singleton ..) (hrespond _) hendpoint'
  | full hsink hrefusal hfull =>
    exact .refused rfl (hpdus' ▸ List.perm_append_singleton ..) (hrespond _) hendpoint'
  | @forwarded s t slot hsink hrefusal hinsert =>
    have houtgoing : (l.endpoint.connections.relay.outgoing p x).received =
        l.endpoint.connections.relay.outgoing p x :=
      Pdu.received_eq_self (show Connection.Status.success.code.toNat < 32 by decide)
    have hperm : l'.pdus.Perm (l.endpoint.connections.relay.outgoing p x :: l.pdus) := by
      rw [hpdus', List.map_singleton, houtgoing]
      exact List.perm_append_singleton ..
    have hinternal : (l.endpoint.connections.relay.outgoing p x).IsInternal l.endpoint.model :=
      ⟨hlistener, htalker, Option.isSome_iff_exists.mpr ⟨s, hsink⟩⟩
    have hrefusal' : Relay.refusal s (l.endpoint.connections.relay.outgoing p x) x = none :=
      hrefusal
    exact .forwarded rfl hperm hx rfl hinternal hsink hrefusal'
      (InFlight.entries_insert_perm hinsert) rfl hendpoint'

/-- Every event does one of these things. -/
theorem stepped (h : l.Coherent) {ev : Event} (hev : l.Admits [ev]) : l.Stepped ev (l.step ev) := by
  cases ev with
  | command frame now => exact stepped_command h (hev frame now List.mem_cons_self) now
  | deliver position src now => exact stepped_deliver h position src now

/-! ## What stays true -/

theorem coherent_start (model : Model) (options : Options) (linkUp : Bool) :
    (start model options linkUp).Coherent where
  role := rfl
  started := rfl
  decodes o ho := absurd ho List.not_mem_nil
  own p hp := absurd hp List.not_mem_nil
  keys := by
    have hentries : (start model options linkUp).endpoint.connections.relay.inFlight.entries = [] :=
      InFlight.entries_empty _
    rw [hentries]
    exact List.Perm.refl _

theorem decodes_step (h : l.Coherent) {ev : Event} (hev : l.Admits [ev]) :
    ∀ o ∈ (l.step ev).undelivered, ∃ p, Pdu.decode o.payload = .ok p := by
  have hsent : ∀ {frame : Frame} {p : Pdu} {now : Time}, frame.isControl →
      Pdu.decode frame.payload = .ok p →
      ∀ o ∈ (l.endpoint.receive frame now true).2, ∃ p, Pdu.decode o.payload = .ok p := by
    intro frame p now hcontrol hdecode o ho
    rw [Endpoint.receive_of_decode hcontrol h.started hdecode] at ho
    obtain ⟨q, -, rfl⟩ := List.mem_map.mp ho
    exact ⟨q.received, Endpoint.decode_multicast q⟩
  intro o ho
  cases ev with
  | command frame now =>
    obtain ⟨hcontrol, p, hdecode, -⟩ := hev frame now List.mem_cons_self
    rcases List.mem_append.mp ho with ho | ho
    · exact h.decodes o ho
    · exact hsent hcontrol hdecode o ho
  | deliver position src now =>
    cases hget : l.undelivered[position]? with
    | none =>
      simp only [step, hget] at ho
      exact h.decodes o ho
    | some o' =>
      obtain ⟨p, hdecode⟩ := h.decodes o' (List.mem_of_getElem? hget)
      simp only [step, hget] at ho
      rcases List.mem_append.mp ho with ho | ho
      · exact h.decodes o (List.mem_of_mem_eraseIdx ho)
      · exact hsent (beq_self_eq_true _) hdecode o ho

/-- An event changes neither the identity of the entity nor what stream inputs it has. -/
theorem Stepped.frame {ev : Event} {l' : Loopback} (h : l.Stepped ev l') :
    l'.endpoint.model.entity = l.endpoint.model.entity ∧
      ∀ u, (l'.endpoint.model.sink? l.endpoint.model.current u).isSome =
        (l.endpoint.model.sink? l.endpoint.model.current u).isSome := by
  cases h with
  | missing hdelivered h => exact h ▸ ⟨rfl, fun u => rfl⟩
  | replied hdelivered hpdus htype hendpoint => exact hendpoint ▸ ⟨rfl, fun u => rfl⟩
  | @told p answer rest x hdelivered hpdus hx htype hinternal hanswers hpdus' haccount hendpoint =>
    have htalker : p.messageType.isForTalker :=
      htype ▸ Connection.MessageType.isForTalker_of_isRelayed hx
    obtain ⟨hentity, hsinks⟩ := Connection.Talker.respond_frame l.endpoint.model htalker
    rw [hendpoint]
    exact ⟨hentity, fun u => congrArg Option.isSome (hsinks _ u)⟩
  | settled hdelivered hpdus hx htype hinternal hreply hpdus' hperm hfor haccount hendpoint =>
    rw [hendpoint]
    exact ⟨Relay.entity_settle .., Relay.isSome_sink?_settle _ _ _ _⟩
  | refused hdelivered hpdus' hreply hendpoint => exact hendpoint ▸ ⟨rfl, fun u => rfl⟩
  | forwarded hdelivered hpdus' hx htype hinternal hsink hrefusal hperm hkey hendpoint =>
    exact hendpoint ▸ ⟨rfl, fun u => rfl⟩

/-- The PDUs on their way after an event are own PDUs. -/
theorem own_step (h : l.Coherent) {ev : Event} {l' : Loopback} (hstep : l.Stepped ev l') :
    ∀ q ∈ l'.pdus, q.IsOwn l.endpoint.model := by
  intro q hq
  cases hstep with
  | missing hdelivered h' => exact h.own q (h' ▸ hq)
  | replied hdelivered hpdus htype hendpoint =>
    exact h.own q (hpdus.mem_iff.mpr (List.mem_cons_of_mem _ hq))
  | told hdelivered hpdus hx htype hinternal hanswers hpdus' haccount hendpoint =>
    rcases List.mem_cons.mp (hpdus'.mem_iff.mp hq) with rfl | hq
    · refine .response hx hanswers.messageType ⟨?_, ?_, ?_⟩
      · exact hanswers.listenerEntityId.trans hinternal.listener
      · exact hanswers.talkerEntityId.trans hinternal.talker
      · rw [Pdu.received_listenerUniqueId, hanswers.listenerUniqueId]
        exact hinternal.sink
    · exact h.own q (hpdus.mem_iff.mpr (List.mem_cons_of_mem _ hq))
  | settled hdelivered hpdus hx htype hinternal hreply hpdus' hperm hfor haccount hendpoint =>
    rcases List.mem_cons.mp (hpdus'.mem_iff.mp hq) with rfl | hq
    · exact .reply hreply
    · exact h.own q (hpdus.mem_iff.mpr (List.mem_cons_of_mem _ hq))
  | refused hdelivered hpdus' hreply hendpoint =>
    rcases List.mem_cons.mp (hpdus'.mem_iff.mp hq) with rfl | hq
    · exact .reply hreply
    · exact h.own q hq
  | forwarded hdelivered hpdus' hx htype hinternal hsink hrefusal hperm hkey hendpoint =>
    rcases List.mem_cons.mp (hpdus'.mem_iff.mp hq) with rfl | hq
    · exact .command hx htype hinternal
    · exact h.own q hq

/-- The commands in flight after an event are those to which a PDU on its way belongs. -/
theorem keys_step (h : l.Coherent) {ev : Event} {l' : Loopback} (hstep : l.Stepped ev l') :
    (l'.endpoint.connections.relay.inFlight.entries.map Entry.key).Perm
      (l'.pdus.filterMap Pdu.key?) := by
  have hkeys := h.keys
  cases hstep with
  | missing hdelivered h' => exact h' ▸ hkeys
  | @replied p hdelivered hpdus htype hendpoint =>
    have hpdus := hpdus.filterMap Pdu.key?
    rw [List.filterMap_cons_none (Pdu.key?_of_isReply htype)] at hpdus
    rw [hendpoint]
    exact hkeys.trans hpdus
  | @told p answer rest x hdelivered hpdus hx htype hinternal hanswers hpdus' haccount hendpoint =>
    -- the answer takes the place of the command, under the same key
    have hkey : answer.received.key? = some (.command x, answer.sequenceId) :=
      Pdu.key?_of_exchange hx (congrArg Connection.MessageType.exchange hanswers.messageType)
    have hpdus := hpdus.filterMap Pdu.key?
    have hpdus' := hpdus'.filterMap Pdu.key?
    rw [List.filterMap_cons_some (Pdu.key?_of_exchange hx (htype ▸ rfl))] at hpdus
    rw [List.filterMap_cons_some hkey, hanswers.sequenceId] at hpdus'
    rw [hendpoint]
    exact (hkeys.trans hpdus).trans hpdus'.symm
  | @settled p reply rest x e t hdelivered hpdus hx htype hinternal hreply hpdus' hperm hfor
      haccount hendpoint =>
    have hpdus := hpdus.filterMap Pdu.key?
    have hpdus' := hpdus'.filterMap Pdu.key?
    rw [List.filterMap_cons_some (Pdu.key?_of_exchange hx (htype ▸ rfl))] at hpdus
    rw [List.filterMap_cons_none (Pdu.key?_of_isReply hreply)] at hpdus'
    have hentries := hperm.map Entry.key
    have hkey : e.key = (.command x, p.sequenceId) := by
      obtain ⟨hcommand, hsequence⟩ := Connection.Entry.isFor_iff.mp hfor
      rw [Entry.key, hcommand, hsequence]
    rw [List.map_cons, hkey] at hentries
    rw [hendpoint]
    exact ((hentries.symm.trans hkeys).trans hpdus).cons_inv.trans hpdus'.symm
  | refused hdelivered hpdus' hreply hendpoint =>
    have hpdus' := hpdus'.filterMap Pdu.key?
    rw [List.filterMap_cons_none (Pdu.key?_of_isReply hreply)] at hpdus'
    rw [hendpoint]
    exact hkeys.trans hpdus'.symm
  | forwarded hdelivered hpdus' hx htype hinternal hsink hrefusal hperm hkey hendpoint =>
    have hpdus' := hpdus'.filterMap Pdu.key?
    have hentries := hperm.map Entry.key
    rw [List.filterMap_cons_some (Pdu.key?_of_exchange hx (htype ▸ rfl))] at hpdus'
    rw [List.map_cons, hkey] at hentries
    rw [hendpoint]
    exact (hentries.trans (hkeys.cons _)).trans hpdus'.symm

theorem Stepped.role_eq {ev : Event} {l' : Loopback} (h : l.Stepped ev l') :
    l'.endpoint.connections.role = l.endpoint.connections.role ∧
      l'.endpoint.acmpStarted = l.endpoint.acmpStarted := by
  cases h with
  | missing hdelivered h => exact h ▸ ⟨rfl, rfl⟩
  | replied hdelivered hpdus htype hendpoint => exact hendpoint ▸ ⟨rfl, rfl⟩
  | told hdelivered hpdus hx htype hinternal hanswers hpdus' haccount hendpoint =>
    exact hendpoint ▸ ⟨rfl, rfl⟩
  | settled hdelivered hpdus hx htype hinternal hreply hpdus' hperm hfor haccount hendpoint =>
    exact hendpoint ▸ ⟨rfl, rfl⟩
  | refused hdelivered hpdus' hreply hendpoint => exact hendpoint ▸ ⟨rfl, rfl⟩
  | forwarded hdelivered hpdus' hx htype hinternal hsink hrefusal hperm hkey hendpoint =>
    exact hendpoint ▸ ⟨rfl, rfl⟩

theorem Coherent.step (h : l.Coherent) {ev : Event} (hev : l.Admits [ev]) :
    (l.step ev).Coherent where
  role := (stepped h hev).role_eq.1.trans h.role
  started := (stepped h hev).role_eq.2.trans h.started
  decodes := decodes_step h hev
  own q hq :=
    have hframe := (stepped h hev).frame
    (own_step h (stepped h hev) q hq).congr hframe.1 hframe.2
  keys := keys_step h (stepped h hev)

/-! ## The account -/

theorem counts_of_some {ev : Event} {p : Pdu} (h : l.delivered? ev = some p)
    (f : Model → Pdu → Bool) : l.counts f ev = (f l.endpoint.model p).toNat := by
  rw [counts, h, Option.map_some, Option.getD_some]

theorem counts_of_none {ev : Event} (h : l.delivered? ev = none) (f : Model → Pdu → Bool) :
    l.counts f ev = 0 := by
  rw [counts, h, Option.map_none, Option.getD_none]

theorem countP_of_perm {ps rest : List Pdu} {p : Pdu} (h : ps.Perm (p :: rest)) (f : Pdu → Bool) :
    ps.countP f = (f p).toNat + rest.countP f := by
  rw [h.countP_eq, List.countP_cons, Nat.add_comm]
  cases f p <;> rfl

/-- **The account of an event**: what the talker counts, and the disconnections on their way, on one
side; that the listener is connected, and the connections on their way, on the other. Both sides
change alike, except for what is late, overbooking or vain. -/
theorem account_step {ev : Event} {l' : Loopback} (h : l.Stepped ev l') (u v : UInt16) :
    l'.endpoint.model.held u v + l'.pdus.countP (·.reports u v .disconnectTx) +
        l.counts (fun m => Pdu.isLate m u v) ev +
        (l.endpoint.model.bound u v + l.pdus.countP (·.reports u v .connectTx)) =
      l'.endpoint.model.bound u v + l'.pdus.countP (·.reports u v .connectTx) +
        l.counts (fun m => Pdu.isOverbooking m u v) ev + l.counts (fun m => Pdu.isVain m u v) ev +
        (l.endpoint.model.held u v + l.pdus.countP (·.reports u v .disconnectTx)) := by
  cases h with
  | missing hdelivered h =>
    rw [h, counts_of_none hdelivered, counts_of_none hdelivered, counts_of_none hdelivered]
    omega
  | @replied p hdelivered hpdus htype hendpoint =>
    have hconnect := Pdu.reports_of_isReply htype u v (.inl rfl)
    have hdisconnect := Pdu.reports_of_isReply htype u v (.inr rfl)
    have hvain := Pdu.isVain_of_messageType (p := p)
      (fun h => by simp [h, Connection.MessageType.isReply] at htype) l.endpoint.model u v
    rw [countP_of_perm hpdus, countP_of_perm hpdus, counts_of_some hdelivered,
      counts_of_some hdelivered, counts_of_some hdelivered, hconnect, hdisconnect, hvain,
      Pdu.isLate_of_reports hdisconnect, Pdu.isOverbooking_of_reports hconnect, hendpoint]
    simp only [Bool.toNat_false]
    omega
  | @told p answer rest x hdelivered hpdus hx htype hinternal hanswers hpdus' haccount hendpoint =>
    have hcommand := Pdu.reports_of_command htype u v
    have hbound : l'.endpoint.model.bound u v = l.endpoint.model.bound u v := by
      have htalker : p.messageType.isForTalker :=
        htype ▸ Connection.MessageType.isForTalker_of_isRelayed hx
      obtain ⟨hentity, hsinks⟩ := Connection.Talker.respond_frame l.endpoint.model htalker
      rw [hendpoint]
      exact Model.bound_congr hentity (hsinks _ u)
    have haccount := haccount u v
    rw [countP_of_perm hpdus, countP_of_perm hpdus, countP_of_perm hpdus', countP_of_perm hpdus',
      counts_of_some hdelivered, counts_of_some hdelivered, counts_of_some hdelivered, hcommand,
      hcommand, Pdu.isLate_of_reports (hcommand _), Pdu.isOverbooking_of_reports (hcommand _),
      hbound]
    simp only [Bool.toNat_false]
    omega
  | @settled p reply rest x e t hdelivered hpdus hx htype hinternal hreply hpdus' hperm hfor
      haccount hendpoint =>
    have hvain := Pdu.isVain_of_messageType (p := p) (fun h => by simp [htype] at h)
      l.endpoint.model u v
    have hheld : l'.endpoint.model.held u v = l.endpoint.model.held u v := by
      rw [hendpoint]
      exact Relay.held_settle ..
    have haccount := haccount u v
    rw [countP_of_perm hpdus, countP_of_perm hpdus, countP_of_perm hpdus', countP_of_perm hpdus',
      counts_of_some hdelivered, counts_of_some hdelivered, counts_of_some hdelivered, hvain,
      Pdu.reports_of_isReply hreply u v (.inl rfl), Pdu.reports_of_isReply hreply u v (.inr rfl),
      hheld]
    simp only [Bool.toNat_false]
    omega
  | refused hdelivered hpdus' hreply hendpoint =>
    rw [countP_of_perm hpdus', countP_of_perm hpdus', counts_of_none hdelivered,
      counts_of_none hdelivered, counts_of_none hdelivered,
      Pdu.reports_of_isReply hreply u v (.inl rfl), Pdu.reports_of_isReply hreply u v (.inr rfl),
      hendpoint]
    simp only [Bool.toNat_false]
    omega
  | @forwarded command x s e r hdelivered hpdus' hx htype hinternal hsink hrefusal hperm hkey
      hendpoint =>
    have hcommand := Pdu.reports_of_command htype u v
    rw [countP_of_perm hpdus', countP_of_perm hpdus', counts_of_none hdelivered,
      counts_of_none hdelivered, counts_of_none hdelivered, hcommand, hcommand, hendpoint]
    simp only [Bool.toNat_false]
    omega

theorem Admits.head {ev : Event} {run : List Event} (h : l.Admits (ev :: run)) :
    l.Admits [ev] := by
  intro frame now hmem
  rw [List.mem_singleton] at hmem
  exact h frame now (hmem ▸ List.mem_cons_self)

theorem Admits.tail {ev : Event} {run : List Event} (h : l.Admits (ev :: run))
    (hcoherent : l.Coherent) : (l.step ev).Admits run := by
  intro frame now hmem
  have hframe := h frame now (List.mem_cons_of_mem _ hmem)
  rwa [Model.entityId, (stepped hcoherent h.head).frame.1]

/-- **The account of a run.** -/
theorem account_after (h : l.Coherent) {run : List Event} (hrun : l.Admits run) (u v : UInt16) :
    (l.after run).endpoint.model.held u v +
        (l.after run).pdus.countP (·.reports u v .disconnectTx) +
        l.tally (fun m => Pdu.isLate m u v) run +
        (l.endpoint.model.bound u v + l.pdus.countP (·.reports u v .connectTx)) =
      (l.after run).endpoint.model.bound u v +
        (l.after run).pdus.countP (·.reports u v .connectTx) +
        l.tally (fun m => Pdu.isOverbooking m u v) run +
        l.tally (fun m => Pdu.isVain m u v) run +
        (l.endpoint.model.held u v + l.pdus.countP (·.reports u v .disconnectTx)) := by
  induction run generalizing l with
  | nil =>
    simp only [after, List.foldl_nil, tally]
    omega
  | cons ev run ih =>
    have ih := ih (h.step hrun.head) (hrun.tail h)
    have hstep := account_step (stepped h hrun.head) u v
    simp only [after, List.foldl_cons, tally] at ih ⊢
    omega

end

/-! ## Without races -/

/-- The number of commands and answers on a stream input that are on their way. -/
def busy (l : Loopback) (u : UInt16) : Nat :=
  l.pdus.countP (·.concerns u)

/-- At no time of a run are two commands on a stream input, or their answers, on their way. -/
def RaceFree (l : Loopback) (u : UInt16) (run : List Event) : Prop :=
  ∀ part, part <+: run → (l.after part).busy u ≤ 1

theorem raceFree_nil {l : Loopback} {u : UInt16} : l.RaceFree u [] ↔ l.busy u ≤ 1 := by
  constructor
  · exact fun h => h [] List.nil_prefix
  · rintro h part hpart
    rw [List.prefix_nil.mp hpart]
    exact h

theorem raceFree_cons {l : Loopback} {u : UInt16} {ev : Event} {run : List Event} :
    l.RaceFree u (ev :: run) ↔ l.busy u ≤ 1 ∧ (l.step ev).RaceFree u run := by
  constructor
  · intro h
    exact ⟨h [] List.nil_prefix, fun part hpart =>
      h (ev :: part) ((List.prefix_cons_inj ev).mpr hpart)⟩
  · rintro ⟨hbusy, h⟩ part hpart
    rcases List.prefix_cons_iff.mp hpart with rfl | ⟨rest, rfl, hrest⟩
    · exact hbusy
    · exact h rest hrest

instance decidableRaceFree (l : Loopback) (u : UInt16) (run : List Event) :
    Decidable (l.RaceFree u run) :=
  match run with
  | [] => decidable_of_iff' _ raceFree_nil
  | ev :: run =>
    have := decidableRaceFree (l.step ev) u run
    decidable_of_iff' _ raceFree_cons

/-- What is on its way fits the stream input, and both sides of its account are equal. -/
structure Calm (l : Loopback) (u : UInt16) : Prop where
  fits : ∀ p ∈ l.pdus, p.concerns u → p.Fits l.endpoint.model
  balanced : ∀ v, l.endpoint.model.held u v + l.pdus.countP (·.reports u v .disconnectTx) =
    l.endpoint.model.bound u v + l.pdus.countP (·.reports u v .connectTx)

section

variable {l : Loopback} {u : UInt16}

theorem mem_of_delivered? {ev : Event} {p : Pdu} (h : l.delivered? ev = some p) : p ∈ l.pdus := by
  cases ev with
  | command frame now => exact absurd h (Option.some_ne_none p).symm
  | deliver position src now =>
    obtain ⟨o, ho, hp⟩ := Option.bind_eq_some_iff.mp h
    exact List.mem_filterMap.mpr ⟨o, List.mem_of_getElem? ho, hp⟩

/-- Nothing else on the stream input is on its way. -/
theorem not_concerns_of_busy (hbusy : l.busy u ≤ 1) {p : Pdu} {rest : List Pdu}
    (hpdus : l.pdus.Perm (p :: rest)) (hp : p.concerns u) : ∀ q ∈ rest, q.concerns u = false := by
  rw [busy, countP_of_perm hpdus, hp, Bool.toNat_true] at hbusy
  have hnone : rest.countP (·.concerns u) = 0 := by omega
  intro q hq
  simpa using List.countP_eq_zero.mp hnone q hq

/-- While a command is on its way, no success of another one is. -/
theorem countP_reports_of_busy (hbusy : l.busy u ≤ 1) {p : Pdu} (hmem : p ∈ l.pdus)
    (hp : p.concerns u) {v : UInt16} {x : Exchange} (hx : x.IsRelayed)
    (hreports : p.reports u v x = false) : l.pdus.countP (·.reports u v x) = 0 := by
  have hpdus := List.perm_cons_erase hmem
  rw [countP_of_perm hpdus, hreports, Bool.toNat_false, Nat.zero_add, List.countP_eq_zero]
  intro q hq hreports'
  obtain ⟨htype, -, hu, -⟩ := Pdu.reports_iff.mp hreports'
  have hconcerns := Pdu.concerns_of_exchange hx (htype ▸ rfl) hu
  rw [not_concerns_of_busy hbusy hpdus hp q hq] at hconcerns
  exact Bool.false_ne_true hconcerns

theorem isLate_of_calm (h : l.Coherent) (hcalm : l.Calm u) {p : Pdu} (hmem : p ∈ l.pdus)
    (v : UInt16) : p.isLate l.endpoint.model u v = false := by
  cases hreports : p.reports u v .disconnectTx with
  | false => exact Pdu.isLate_of_reports hreports
  | true =>
    obtain ⟨htype, -, rfl, rfl⟩ := Pdu.reports_iff.mp hreports
    have hexchange : p.messageType.exchange = .disconnectTx := htype ▸ rfl
    have hconcerns := Pdu.concerns_of_exchange (.inr rfl) hexchange rfl
    have hinternal := (h.own p hmem).internal (Pdu.concerns_iff.mp hconcerns).1
    rw [Pdu.isLate, (hcalm.fits p hmem hconcerns).bound_eq hinternal hexchange]
    exact Bool.and_false _

theorem isOverbooking_of_calm (h : l.Coherent) (hcalm : l.Calm u) {p : Pdu} (hmem : p ∈ l.pdus)
    (v : UInt16) : p.isOverbooking l.endpoint.model u v = false := by
  cases hreports : p.reports u v .connectTx with
  | false => exact Pdu.isOverbooking_of_reports hreports
  | true =>
    obtain ⟨htype, -, rfl, rfl⟩ := Pdu.reports_iff.mp hreports
    have hexchange : p.messageType.exchange = .connectTx := htype ▸ rfl
    have hconcerns := Pdu.concerns_of_exchange (.inl rfl) hexchange rfl
    have hinternal := (h.own p hmem).internal (Pdu.concerns_iff.mp hconcerns).1
    obtain ⟨s, hs⟩ := Option.isSome_iff_exists.mp hinternal.sink
    have hrefusal := hcalm.fits p hmem hconcerns s hs
    rw [hexchange] at hrefusal
    rw [Pdu.isOverbooking, hs, Option.any_some, Relay.refusal_connectTx hrefusal, Bool.and_false]

theorem isVain_of_calm (h : l.Coherent) (hcalm : l.Calm u) (hbusy : l.busy u ≤ 1) {p : Pdu}
    (hmem : p ∈ l.pdus) (v : UInt16) : p.isVain l.endpoint.model u v = false := by
  by_cases hnamed : p.messageType = .command .disconnectTx ∧ p.listenerUniqueId = u ∧
    p.talkerUniqueId = v
  · obtain ⟨htype, rfl, rfl⟩ := hnamed
    have hexchange : p.messageType.exchange = .disconnectTx := htype ▸ rfl
    have hconcerns := Pdu.concerns_of_exchange (.inr rfl) hexchange rfl
    have hinternal := (h.own p hmem).internal (Pdu.concerns_iff.mp hconcerns).1
    have hcommand := Pdu.reports_of_command htype p.listenerUniqueId p.talkerUniqueId
    -- nothing else is on its way, so the talker counts what the listener has
    have hbalanced := hcalm.balanced p.talkerUniqueId
    rw [countP_reports_of_busy hbusy hmem hconcerns (.inr rfl) (hcommand _),
      countP_reports_of_busy hbusy hmem hconcerns (.inl rfl) (hcommand _),
      (hcalm.fits p hmem hconcerns).bound_eq hinternal hexchange] at hbalanced
    rw [Pdu.isVain]
    cases hsource : l.endpoint.model.source? l.endpoint.model.current p.talkerUniqueId with
    | none => rw [Option.any_none, Bool.and_false]
    | some t =>
      rw [Model.held_of_source? hsource] at hbalanced
      have hpos : 0 < t.listeners.count ⟨l.endpoint.model.entityId, p.listenerUniqueId⟩ := by omega
      have hlistener := List.count_pos_iff.mp hpos
      rw [Option.any_some, List.contains_iff_mem.mpr hlistener, Bool.not_true, Bool.and_false]
  · rw [Pdu.isVain]
    simp only [Bool.and_eq_false_iff, beq_eq_false_iff_ne]
    refine .inl ?_
    rw [not_and_or, not_and_or] at hnamed
    exact or_assoc.mpr hnamed

/-- When what is on its way fits, nothing is counted. -/
theorem counts_of_calm (h : l.Coherent) (hcalm : l.Calm u) (hbusy : l.busy u ≤ 1) (ev : Event)
    (v : UInt16) :
    l.counts (fun m => Pdu.isLate m u v) ev = 0 ∧
      l.counts (fun m => Pdu.isOverbooking m u v) ev = 0 ∧
      l.counts (fun m => Pdu.isVain m u v) ev = 0 := by
  cases hdelivered : l.delivered? ev with
  | none =>
    exact ⟨counts_of_none hdelivered _, counts_of_none hdelivered _, counts_of_none hdelivered _⟩
  | some p =>
    have hmem := mem_of_delivered? hdelivered
    rw [counts_of_some hdelivered, counts_of_some hdelivered, counts_of_some hdelivered,
      isLate_of_calm h hcalm hmem, isOverbooking_of_calm h hcalm hmem,
      isVain_of_calm h hcalm hbusy hmem]
    exact ⟨rfl, rfl, rfl⟩

/-- What is on its way after an event fits as well. -/
theorem fits_step (hcalm : l.Calm u) (hbusy : l.busy u ≤ 1) {ev : Event} {l' : Loopback}
    (hstep : l.Stepped ev l') : ∀ q ∈ l'.pdus, q.concerns u → q.Fits l'.endpoint.model := by
  intro q hq hconcerns
  have hreply : q.messageType.isReply → False := by
    intro htype
    have hkey := (Pdu.concerns_iff.mp hconcerns).1
    rw [Pdu.key?_of_isReply htype] at hkey
    exact Bool.false_ne_true hkey
  cases hstep with
  | missing hdelivered h => exact h ▸ hcalm.fits q (h ▸ hq) hconcerns
  | replied hdelivered hpdus htype hendpoint =>
    rw [hendpoint]
    exact hcalm.fits q (hpdus.mem_iff.mpr (List.mem_cons_of_mem _ hq)) hconcerns
  | @told p answer rest x hdelivered hpdus hx htype hinternal hanswers hpdus' haccount hendpoint =>
    have htalker : p.messageType.isForTalker :=
      htype ▸ Connection.MessageType.isForTalker_of_isRelayed hx
    obtain ⟨hentity, hsinks⟩ := Connection.Talker.respond_frame l.endpoint.model htalker
    rw [hendpoint]
    refine Pdu.Fits.congr ?_ hentity (hsinks _ _)
    rcases List.mem_cons.mp (hpdus'.mem_iff.mp hq) with rfl | hq
    · -- the answer is about the same streams as the command
      have hu : p.listenerUniqueId = u :=
        hanswers.listenerUniqueId.symm.trans (Pdu.concerns_iff.mp hconcerns).2
      have hexchange : p.messageType.exchange = x := htype ▸ rfl
      have hmem := hpdus.mem_iff.mpr List.mem_cons_self
      exact hanswers.fits hexchange
        (hcalm.fits p hmem (Pdu.concerns_of_exchange hx hexchange hu))
    · exact hcalm.fits q (hpdus.mem_iff.mpr (List.mem_cons_of_mem _ hq)) hconcerns
  | @settled p reply rest x e t hdelivered hpdus hx htype hinternal hreply' hpdus' hperm hfor
      haccount hendpoint =>
    rcases List.mem_cons.mp (hpdus'.mem_iff.mp hq) with rfl | hq
    · exact absurd hreply' hreply
    · by_cases hu : p.listenerUniqueId = u
      -- a second answer on the stream input would race the first one
      · have hp := Pdu.concerns_of_exchange hx (htype ▸ rfl) hu
        rw [not_concerns_of_busy hbusy hpdus hp q hq] at hconcerns
        exact absurd hconcerns Bool.false_ne_true
      · have hqu : q.listenerUniqueId = u := (Pdu.concerns_iff.mp hconcerns).2
        have hfits := hcalm.fits q (hpdus.mem_iff.mpr (List.mem_cons_of_mem _ hq)) hconcerns
        rw [hendpoint]
        refine hfits.congr (Relay.entity_settle ..) ?_
        rw [hqu]
        exact Relay.sink?_settle _ _ _ _ hu
  | refused hdelivered hpdus' hreply' hendpoint =>
    rcases List.mem_cons.mp (hpdus'.mem_iff.mp hq) with rfl | hq
    · exact absurd hreply' hreply
    · exact hendpoint ▸ hcalm.fits q hq hconcerns
  | @forwarded command x s e r hdelivered hpdus' hx htype hinternal hsink hrefusal hperm hkey
      hendpoint =>
    rw [hendpoint]
    rcases List.mem_cons.mp (hpdus'.mem_iff.mp hq) with rfl | hq
    -- a command is passed on only after the listener has checked it
    · intro s' hs'
      obtain rfl := Option.some.inj (hsink.symm.trans hs')
      rw [htype]
      exact hrefusal
    · exact hcalm.fits q hq hconcerns

theorem Calm.step (h : l.Coherent) (hcalm : l.Calm u) (hbusy : l.busy u ≤ 1) {ev : Event}
    (hev : l.Admits [ev]) : (l.step ev).Calm u where
  fits := fits_step hcalm hbusy (stepped h hev)
  balanced v := by
    obtain ⟨hlate, hoverbooking, hvain⟩ := counts_of_calm h hcalm hbusy ev v
    have haccount := account_step (stepped h hev) u v
    have hbalanced := hcalm.balanced v
    omega

/-- Without races nothing is counted. -/
theorem tally_of_raceFree (h : l.Coherent) (hcalm : l.Calm u) {run : List Event}
    (hrun : l.Admits run) (hfree : l.RaceFree u run) (v : UInt16) :
    l.tally (fun m => Pdu.isLate m u v) run = 0 ∧
      l.tally (fun m => Pdu.isOverbooking m u v) run = 0 ∧
      l.tally (fun m => Pdu.isVain m u v) run = 0 := by
  induction run generalizing l with
  | nil => exact ⟨rfl, rfl, rfl⟩
  | cons ev run ih =>
    obtain ⟨hbusy, hfree'⟩ := raceFree_cons.mp hfree
    obtain ⟨hlate, hoverbooking, hvain⟩ := counts_of_calm h hcalm hbusy ev v
    obtain ⟨hlate', hoverbooking', hvain'⟩ :=
      ih (h.step hrun.head) (hcalm.step h hbusy hrun.head) (hrun.tail h) hfree'
    simp only [tally, hlate, hoverbooking, hvain, hlate', hoverbooking', hvain']
    exact ⟨trivial, trivial, trivial⟩

end

/-! ## When nothing is on its way -/

section

variable {tree : Tree} {mac : Mac} {model : Model}

/-- The streams of a built model count nothing, and nothing is on its way at the start. -/
theorem held_of_build (hbuild : Model.build tree mac = .ok model) (u v : UInt16) :
    model.held u v = 0 := by
  rw [Model.held]
  cases hsource : model.source? model.current v with
  | none => rfl
  | some t =>
    rw [Model.source?_of_build hbuild hsource]
    rfl

theorem bound_of_build (hbuild : Model.build tree mac = .ok model) (u v : UInt16) :
    model.bound u v = 0 := by
  rw [Model.bound]
  cases hsink : model.sink? model.current u with
  | none => rfl
  | some s =>
    rw [Model.sink?_of_build hbuild hsink]
    rfl

theorem calm_start (hbuild : Model.build tree mac = .ok model) (options : Options) (linkUp : Bool)
    (u : UInt16) : (start model options linkUp).Calm u where
  fits _ hp := absurd hp List.not_mem_nil
  balanced v := (held_of_build hbuild u v).trans (bound_of_build hbuild u v).symm

/-- **Agreement of the two tables**: when nothing is on its way any more, the talker counts a
connection once if the listener has it, and never otherwise, once more for each overbooking and each
vain disconnection, and once less for each late one. Without races there are none of these. -/
theorem held_of_quiet (hbuild : Model.build tree mac = .ok model) (options : Options)
    (linkUp : Bool) {run : List Event} (hrun : (start model options linkUp).Admits run)
    {l : Loopback} (hl : (start model options linkUp).after run = l) (hquiet : l.undelivered = [])
    {u v : UInt16} {s : Sink} {t : Source}
    (hsink : l.endpoint.model.sink? l.endpoint.model.current u = some s)
    (hsource : l.endpoint.model.source? l.endpoint.model.current v = some t) :
    t.listeners.count ⟨l.endpoint.model.entityId, u⟩ +
        (start model options linkUp).tally (fun m => Pdu.isLate m u v) run =
      (if s.isBoundTo l.endpoint.model.entityId v then 1 else 0) +
        (start model options linkUp).tally (fun m => Pdu.isOverbooking m u v) run +
        (start model options linkUp).tally (fun m => Pdu.isVain m u v) run ∧
    ((start model options linkUp).RaceFree u run →
      t.listeners.count ⟨l.endpoint.model.entityId, u⟩ =
        if s.isBoundTo l.endpoint.model.entityId v then 1 else 0) := by
  have hcoherent := coherent_start model options linkUp
  have hcalm := calm_start hbuild options linkUp u
  have haccount := account_after hcoherent hrun u v
  have hbalanced := hcalm.balanced v
  have hpdus : l.pdus = [] := by
    rw [pdus, hquiet]
    rfl
  have hbound : (s.isBoundTo l.endpoint.model.entityId v).toNat =
      if s.isBoundTo l.endpoint.model.entityId v then 1 else 0 := by
    cases s.isBoundTo l.endpoint.model.entityId v <;> rfl
  rw [hl, hpdus, List.countP_nil, List.countP_nil, Model.held_of_source? hsource,
    Model.bound_of_sink? hsink, hbound] at haccount
  constructor
  · omega
  · intro hfree
    obtain ⟨hlate, hoverbooking, hvain⟩ := tally_of_raceFree hcoherent hcalm hrun hfree v
    omega

end

/-- Controllers command to connect the smallest entity to itself, and then the oldest frame is
delivered so many times. -/
def connects (sequenceIds : List UInt16) (count : Nat) : List Event :=
  (sequenceIds.map fun sequenceId =>
    .command ((Endpoint.multicast (.duplex .connectRx sequenceId)).frame .duplex) 0) ++
    List.replicate count (.deliver 0 .duplex 0)

theorem admits_connects (sequenceIds : List UInt16) (count : Nat) :
    (start .duplex {} true).Admits (connects sequenceIds count) := by
  intro frame now hmem
  rcases List.mem_append.mp hmem with hmem | hmem
  · obtain ⟨sequenceId, -, hev⟩ := List.mem_map.mp hmem
    obtain ⟨rfl, rfl⟩ := Event.command.inj hev
    exact ⟨beq_self_eq_true _, .received (.duplex .connectRx sequenceId),
      Endpoint.decode_multicast _, rfl, rfl, rfl⟩
  · exact absurd (List.eq_of_mem_replicate hmem) Event.noConfusion

/-- The smallest entity after as many commands and deliveries. -/
def duplex (sequenceIds : List UInt16) (count : Nat) : Loopback :=
  (start .duplex {} true).after (connects sequenceIds count)

/-- One command and what follows from it: the listener has the connection, and the talker counts it
once. -/
theorem held_of_quiet_connect :
    Model.build .duplex .duplex = .ok .duplex ∧ (duplex [7] 3).undelivered = [] ∧
      (start .duplex {} true).RaceFree 0 (connects [7] 3) ∧
      ∃ s t, (duplex [7] 3).endpoint.model.sink? 0 0 = some s ∧
        (duplex [7] 3).endpoint.model.source? 0 0 = some t ∧
        s.isBoundTo Model.duplex.entityId 0 = true ∧
        t.listeners.count ⟨Model.duplex.entityId, 0⟩ = 1 := by
  obtain ⟨hquiet, hfree, hentity, hsink, hsource⟩ :
      (duplex [7] 3).undelivered = [] ∧ (start .duplex {} true).RaceFree 0 (connects [7] 3) ∧
        (duplex [7] 3).endpoint.model.entity = Model.duplex.entity ∧
        ((duplex [7] 3).endpoint.model.sink? 0 0).any
          (·.isBoundTo Model.duplex.entityId 0) = true ∧
        ((duplex [7] 3).endpoint.model.source? 0 0).isSome := by
    decide +kernel
  obtain ⟨s, hsink, hs⟩ := (Option.any_eq_true ..).mp hsink
  obtain ⟨t, hsource⟩ := Option.isSome_iff_exists.mp hsource
  have hcurrent : (duplex [7] 3).endpoint.model.current = 0 := by
    rw [Model.current, hentity]
    rfl
  have hheld := (held_of_quiet Model.build_duplex {} true (admits_connects [7] 3)
    (l := duplex [7] 3) rfl hquiet (hcurrent ▸ hsink) (hcurrent ▸ hsource)).2 hfree
  rw [Model.entityId, hentity] at hheld
  exact ⟨Model.build_duplex, hquiet, hfree, s, t, hsink, hsource, hs, hheld.trans (if_pos hs)⟩

/-- Two commands that race each other: the talker counts the connection twice. The listener takes
the first of the answers, and turns the second one down without telling the talker. -/
theorem not_agree_of_race :
    ¬ ∀ (tree : Tree) (mac : Mac) (model : Model) (options : Options) (linkUp : Bool)
        (run : List Event) (l : Loopback), Model.build tree mac = .ok model →
      (start model options linkUp).Admits run → (start model options linkUp).after run = l →
      l.undelivered = [] → l.endpoint.connections.relay.inFlight.entries = [] →
      ∀ u v s t, l.endpoint.model.sink? l.endpoint.model.current u = some s →
        l.endpoint.model.source? l.endpoint.model.current v = some t →
        t.connectionCount.toNat < 65535 →
        t.listeners.count ⟨l.endpoint.model.entityId, u⟩ =
          if s.isBoundTo l.endpoint.model.entityId v then 1 else 0 := by
  intro h
  obtain ⟨hquiet, hanswered, hsink, hsource⟩ :
      (duplex [7, 8] 6).undelivered = [] ∧
        (duplex [7, 8] 6).endpoint.connections.relay.inFlight.entries = [] ∧
        ((duplex [7, 8] 6).endpoint.model.sink?
          (duplex [7, 8] 6).endpoint.model.current 0).isSome ∧
        ((duplex [7, 8] 6).endpoint.model.source?
          (duplex [7, 8] 6).endpoint.model.current 0).any (fun t =>
            t.connectionCount.toNat < 65535 &&
              t.listeners.count ⟨(duplex [7, 8] 6).endpoint.model.entityId, 0⟩ == 2) = true := by
    decide +kernel
  obtain ⟨s, hsink⟩ := Option.isSome_iff_exists.mp hsink
  obtain ⟨t, hsource, ht⟩ := (Option.any_eq_true ..).mp hsource
  rw [Bool.and_eq_true, decide_eq_true_iff, beq_iff_eq] at ht
  have hagree := h .duplex .duplex .duplex {} true (connects [7, 8] 6) (duplex [7, 8] 6)
    Model.build_duplex (admits_connects [7, 8] 6) rfl hquiet hanswered 0 0 s t hsink hsource ht.1
  rw [ht.2] at hagree
  split at hagree
  · exact absurd hagree (Nat.succ_ne_self 1)
  · exact absurd hagree (Nat.succ_ne_zero 1)

end Loopback

end AvbEntity

import AvbEntity.Proofs.Connection.Range
import AvbEntity.Proofs.Discovery.Announcement
import AvbEntity.Proofs.Endpoint.Listeners
import AvbEntity.Proofs.Enumeration.Reading
import AvbEntity.Proofs.Model.Derivation
import AvbEntity.Proofs.Model.Shape

/-!
# How many streams an entity has

An entity says in three ways how many streams it has: in its announcements, in the descriptors that
it serves, and in connection management, where it knows the streams with smaller numbers and no
others. Whatever the entity receives and the application does, the three agree. The reason is that
no step changes the shape of the model, from which all of them are told.

## Main definitions

* `discoveryPdus`: the discovery PDUs among what was sent
* `Endpoint.Reaches`: the states of an entity, and what was sent until then
* `Endpoint.requestOn`: a controller's command on a stream input that a step hands over
* `Endpoint.CountsAgree`: all that is said of the number of streams

## Main results

* `Endpoint.shape_step`, `Endpoint.Reaches.shape_eq`: one step, and a run
* `Endpoint.countsAgree_of_reaches`: the three ways agree in every state
-/

namespace AvbEntity

/-! ## What is sent -/

/-- The discovery PDUs among what was sent, as a receiver decodes them. -/
def discoveryPdus (sent : List Outgoing) : List Discovery.Pdu :=
  sent.filterMap fun o => (Discovery.Pdu.decode o.payload).toOption

@[simp] theorem discoveryPdus_append (xs ys : List Outgoing) :
    discoveryPdus (xs ++ ys) = discoveryPdus xs ++ discoveryPdus ys :=
  List.filterMap_append

/-- What is sent for another sub-protocol is not read. -/
theorem discoveryPdus_eq_nil {sent : List Outgoing}
    (h : ∀ o ∈ sent, peekSubtype o.payload ≠ .ok .adp) : discoveryPdus sent = [] := by
  rw [discoveryPdus, List.filterMap_eq_nil_iff]
  intro o ho
  cases hdecode : Discovery.Pdu.decode o.payload with
  | error fault => rfl
  | ok p => exact absurd (Discovery.Pdu.peekSubtype_of_decode hdecode) (h o ho)

theorem discoveryPdus_announce (ps : List Discovery.Pdu) :
    discoveryPdus (ps.map Endpoint.announce) = ps.map (·.received) := by
  have hdecode : ∀ p : Discovery.Pdu, Discovery.Pdu.decode p.encode = .ok p.received := by
    intro p
    have hread := Discovery.Pdu.decode_encode p []
    rwa [List.append_nil] at hread
  simp [discoveryPdus, List.filterMap_map, Function.comp_def, Endpoint.announce, hdecode,
    Except.toOption, List.filterMap_eq_map']

theorem peekSubtype_multicast (p : Connection.Pdu) :
    peekSubtype (Endpoint.multicast p).payload = .ok .acmp :=
  ControlHeader.peekSubtype_encode ..

theorem discoveryPdus_multicast (ps : List Connection.Pdu) :
    discoveryPdus (ps.map Endpoint.multicast) = [] := by
  apply discoveryPdus_eq_nil
  intro o ho
  obtain ⟨p, -, rfl⟩ := List.mem_map.mp ho
  rw [peekSubtype_multicast]
  decide

namespace Endpoint

variable {e : Endpoint}

/-- No frame is answered by a discovery PDU. -/
theorem discoveryPdus_receive (e : Endpoint) (frame : Frame) (now : Time) (accepted : Bool) :
    discoveryPdus (e.receive frame now accepted).2 = [] := by
  have hend := received e frame now accepted
  generalize e.receive frame now accepted = result at hend ⊢
  cases hend with
  | dropped => rfl
  | discovery hcontrol hdecode => rfl
  | enumeration hcontrol hhandle =>
    apply discoveryPdus_eq_nil
    intro o ho
    rw [Enumeration.Responder.peekSubtype_of_mem hhandle ho]
    decide
  | connection hcontrol hstarted hdecode => exact discoveryPdus_multicast _

/-- Whatever is sent by a step, and does not ask for other entities, announces the streams that the
ENTITY counts. -/
theorem counts_of_mem_step {s : Step} {p : Discovery.Pdu} (h : p ∈ discoveryPdus (e.step s).2)
    (hp : p.messageType ≠ .discover) :
    p.talkerStreamSources = e.model.entity.talkerStreamSources ∧
      p.listenerStreamSinks = e.model.entity.listenerStreamSinks := by
  cases s with
  | receive frame now accepted =>
    rw [step, discoveryPdus_receive] at h
    exact absurd h List.not_mem_nil
  | tick now link =>
    simp only [step, tick, discoveryPdus_append, discoveryPdus_announce, discoveryPdus_multicast,
      List.append_nil] at h
    obtain ⟨p', hp', rfl⟩ := List.mem_map.mp h
    obtain rfl | ⟨a, t, rfl⟩ := Discovery.Advertiser.mem_tick _ _ _ hp'
    · exact absurd rfl hp
    · exact ⟨rfl, rfl⟩
  | publish configuration uniqueId streamId streamDestMac streamVlanId =>
    simp only [step] at h
    split at h <;> exact absurd h List.not_mem_nil
  | setAcmpStarted started => exact absurd h List.not_mem_nil
  | setGrandmaster id => exact absurd h List.not_mem_nil
  | requestDiscover => exact absurd h List.not_mem_nil
  | requestDepart => exact absurd h List.not_mem_nil

end Endpoint

/-! ## The shape of the model -/

namespace Connection

/-- No PDU changes the shape of the model. -/
theorem Talker.shape_respond (m : Model) {p : Pdu} (h : p.messageType.isForTalker) :
    (respond m p).1.shape = m.shape := by
  have hend := responded m h
  generalize respond m p = result at hend ⊢
  cases hend with
  | unknown hsource => rfl
  | answered hsource hact => exact Model.shape_modifySource ..

theorem Relay.shape_handle (r : Relay) (m : Model) (p : Pdu) (now : Time) (accepted : Bool) :
    (r.handle m p now accepted).2.1.shape = m.shape := by
  rcases model_handle r m p now accepted with h | ⟨f, h⟩
  · rw [h]
  · rw [h, Model.shape_modifySink]

theorem Manager.shape_handle (c : Manager) (m : Model) (p : Pdu) (now : Time) (accepted : Bool) :
    (c.handle m p now accepted).2.1.shape = m.shape := by
  have hend := handled c m p now accepted
  generalize c.handle m p now accepted = result at hend ⊢
  cases hend with
  | talker htype hrole hnamed => exact Talker.shape_respond m htype
  | listener htype hrole hnamed => exact Relay.shape_handle ..
  | ignored htype => rfl

end Connection

namespace Endpoint

variable {e e₀ : Endpoint} {sent : List Outgoing}

/-- No step changes the shape of the model. -/
theorem shape_step (e : Endpoint) (s : Step) : (e.step s).1.model.shape = e.model.shape := by
  have hstep := connectionStep e s
  generalize (e.step s).1.connections = c, (e.step s).1.model = m,
    connectionPdus (e.step s).2 = sent at hstep ⊢
  cases hstep with
  | heard hcontrol hstarted hdecode => exact Connection.Manager.shape_handle ..
  | ticked hstarted => rfl
  | published => exact Model.shape_modifySource ..
  | quiet hheard => rfl

/-- The states that an entity reaches, and what it has sent until then: by its steps, and by all
that the application can do to the states of the streams. -/
inductive Reaches (e₀ : Endpoint) : Endpoint → List Outgoing → Prop
  | start : Reaches e₀ e₀ []
  | step {e : Endpoint} {sent : List Outgoing} (h : Reaches e₀ e sent) (s : Step) :
    Reaches e₀ (e.step s).1 (sent ++ (e.step s).2)
  | resetStreams {e : Endpoint} {sent : List Outgoing} (h : Reaches e₀ e sent) :
    Reaches e₀ e.resetStreams sent
  | modifySink {e : Endpoint} {sent : List Outgoing} (h : Reaches e₀ e sent)
    (configuration uniqueId : UInt16) (f : Sink → Sink) :
    Reaches e₀ { e with model := e.model.modifySink configuration uniqueId f } sent
  | modifySource {e : Endpoint} {sent : List Outgoing} (h : Reaches e₀ e sent)
    (configuration uniqueId : UInt16) (f : Source → Source) :
    Reaches e₀ { e with model := e.model.modifySource configuration uniqueId f } sent

namespace Reaches

theorem role_eq (h : Reaches e₀ e sent) : e.connections.role = e₀.connections.role := by
  induction h with
  | start => rfl
  | step h s ih => rw [role_step, ih]
  | resetStreams h ih => exact ih
  | modifySink h configuration uniqueId f ih => exact ih
  | modifySource h configuration uniqueId f ih => exact ih

theorem entity_eq (h : Reaches e₀ e sent) : e.model.entity = e₀.model.entity := by
  induction h with
  | start => rfl
  | step h s ih => rw [entity_step, ih]
  | resetStreams h ih => exact ih
  | modifySink h configuration uniqueId f ih => exact ih
  | modifySource h configuration uniqueId f ih => exact ih

/-- The shape of a model that was built stays for ever. -/
theorem shape_eq {tree : Tree} {mac : Mac} (hbuild : Model.build tree mac = .ok e₀.model)
    (h : Reaches e₀ e sent) : e.model.shape = e₀.model.shape := by
  induction h with
  | start => rfl
  | step h s ih => rw [shape_step, ih]
  | resetStreams h ih => exact Model.shape_resetStreams hbuild ih
  | modifySink h configuration uniqueId f ih => rw [Model.shape_modifySink, ih]
  | modifySource h configuration uniqueId f ih => rw [Model.shape_modifySource, ih]

/-- Every announcement that was sent counts the streams as the ENTITY does. -/
theorem counts_of_mem (h : Reaches e₀ e sent) {p : Discovery.Pdu} (hmem : p ∈ discoveryPdus sent)
    (hp : p.messageType ≠ .discover) :
    p.talkerStreamSources = e₀.model.entity.talkerStreamSources ∧
      p.listenerStreamSinks = e₀.model.entity.listenerStreamSinks := by
  induction h with
  | start => exact absurd hmem List.not_mem_nil
  | step h s ih =>
    rw [discoveryPdus_append, List.mem_append] at hmem
    rcases hmem with hmem | hmem
    · exact ih hmem
    · rw [← h.entity_eq]
      exact counts_of_mem_step hmem hp
  | resetStreams h ih => exact ih hmem
  | modifySink h configuration uniqueId f ih => exact ih hmem
  | modifySource h configuration uniqueId f ih => exact ih hmem

end Reaches

end Endpoint

/-! ## What is served -/

/-- The number of descriptors of a kind that a CONFIGURATION lists, zero if it does not list the
kind. -/
def Descriptor.Summary.listed (s : Descriptor.Summary) (k : Kind) : UInt16 :=
  ((s.descriptorCounts.find? (·.descriptorType == k.code)).map (·.count)).getD 0

/-- The CONFIGURATION of a configuration that was built lists the number of its descriptors. -/
theorem Configuration.Built.listed_eq {mac : Mac} {position : UInt16} {node : Tree.Configuration}
    {c : Configuration} (h : c.Built mac position node) {k : Kind} (hk : k.hasLayout) :
    c.summary.listed k = c.count k := by
  rw [h.count_eq, Descriptor.Summary.listed]
  cases hfind : c.summary.descriptorCounts.find? (·.descriptorType == k.code) with
  | none =>
    rw [h.countP_eq_zero hk fun n hn htype => ?_]
    · rfl
    · exact List.find?_eq_none.mp hfind n hn (beq_iff_eq.mpr htype)
  | some n =>
    have htype := List.find?_some hfind
    obtain ⟨k', -, -, rfl⟩ := (h.lists n).mp (List.mem_of_find?_eq_some hfind)
    obtain rfl := Kind.code_inj.mp (beq_iff_eq.mp htype)
    rfl

namespace Model

variable {m m' : Model}

/-- What is answered to a controller can be told from the shape of the model. -/
theorem answer_congr (h : m.shape = m'.shape) (bs : Octets) :
    Enumeration.Responder.answer m bs = Enumeration.Responder.answer m' bs := by
  have hshape : ∀ m : Model, Enumeration.Responder.answer m.shape bs =
      Enumeration.Responder.answer m bs := by
    intro m
    simp only [Enumeration.Responder.answer, Enumeration.Responder.readDescriptor, find?_shape,
      entityId_shape]
  rw [← hshape m, h, hshape m']

theorem handle_congr (h : m.shape = m'.shape) (r : Enumeration.Responder) (bs : Octets) :
    r.handle m bs = r.handle m' bs := by
  rw [Enumeration.Responder.handle, Enumeration.Responder.handle, answer_congr h]

theorem reads_congr (h : m.shape = m'.shape) {t : Enumeration.ReadDescriptor}
    {configuration : UInt16} {d : Descriptor} :
    m.Reads t configuration d ↔ m'.Reads t configuration d := by
  have hid : m.entityId = m'.entityId := by rw [← entityId_shape, h, entityId_shape]
  simp only [Reads, Serves, Answers, handle_congr h, hid]

/-! ## What was built -/

/-- What a model that was built says of its streams: `c` is the configuration in use. -/
structure Counted (m : Model) (c : Configuration) : Prop where
  sources : m.entity.talkerStreamSources = c.count .streamOutput
  sinks : m.entity.listenerStreamSinks = c.count .streamInput
  isSome_source? : ∀ v, (m.source? m.current v).isSome ↔ v < m.entity.talkerStreamSources
  isSome_sink? : ∀ u, (m.sink? m.current u).isSome ↔ u < m.entity.listenerStreamSinks

/-- The shape of the model says all of this. -/
theorem Counted.congr {c : Configuration} (hcounted : m'.Counted c) (h : m.shape = m'.shape) :
    m.Counted c := by
  have hentity : m.entity = m'.entity := by rw [← entity_shape, h, entity_shape]
  have hcurrent : m.current = m'.current := congrArg (·.currentConfiguration) hentity
  constructor
  case sources => rw [hentity, hcounted.sources]
  case sinks => rw [hentity, hcounted.sinks]
  case isSome_source? =>
    intro v
    rw [← isSome_source?_shape, h, isSome_source?_shape, hcurrent, hentity,
      hcounted.isSome_source?]
  case isSome_sink? =>
    intro u
    rw [← isSome_sink?_shape, h, isSome_sink?_shape, hcurrent, hentity, hcounted.isSome_sink?]

/-- So many fresh streams are there under the numbers below. -/
theorem isSome_getElem?_map_fresh {α : Type} {fresh : UInt16 → α} {count uniqueId : UInt16} :
    (((List.range count.toNat).map fun i => fresh (.ofNat i))[uniqueId.toNat]?).isSome ↔
      uniqueId < count := by
  rw [isSome_getElem?, List.length_map, List.length_range, UInt16.lt_iff_toNat_lt]

theorem exists_counted {tree : Tree} {mac : Mac} (hbuild : build tree mac = .ok m) :
    ∃ c, m.configuration? m.current = some c ∧ m.Counted c := by
  obtain ⟨c, hc, hentity⟩ := entity_of_build hbuild
  have hcurrent : m.current = tree.entity.currentConfiguration := by rw [current, hentity]
  have hsources : m.entity.talkerStreamSources = c.count .streamOutput := by rw [hentity]
  have hsinks : m.entity.listenerStreamSinks = c.count .streamInput := by rw [hentity]
  rw [← hcurrent] at hc
  have hreset : c = c.resetStreams := by
    obtain ⟨m₀, rfl⟩ := eq_resetStreams_of_build hbuild
    rw [configuration?_resetStreams] at hc
    obtain ⟨c₀, -, rfl⟩ := Option.map_eq_some_iff.mp hc
    rfl
  refine ⟨c, hc, hsources, hsinks, fun v => ?_, fun u => ?_⟩
  · rw [source?, hc, hsources, Option.bind_eq_bind, Option.bind_some, hreset]
    exact isSome_getElem?_map_fresh
  · rw [sink?, hc, hsinks, Option.bind_eq_bind, Option.bind_some, hreset]
    exact isSome_getElem?_map_fresh

end Model

namespace Endpoint

open Connection (Manager Pdu)

variable {e e₀ : Endpoint} {s : Step} {p : Pdu} {u : UInt16} {sent : List Outgoing}

/-! ## What connection management knows -/

/-- The command of a controller on a stream input that a step hands over: one that names the entity
and the stream input. -/
def requestOn (e : Endpoint) (u : UInt16) (s : Step) : Option Pdu :=
  (e.heard s).filter fun p =>
    p.messageType.isOnSink && p.listenerEntityId == e.model.entityId && p.listenerUniqueId == u

theorem requestOn_eq_some : e.requestOn u s = some p ↔ e.heard s = some p ∧
    p.messageType.isOnSink ∧ p.listenerEntityId = e.model.entityId ∧ p.listenerUniqueId = u := by
  rw [requestOn, Option.filter_eq_some_iff, Bool.and_eq_true, Bool.and_eq_true, beq_iff_eq,
    beq_iff_eq, and_assoc]

/-- Such a command is handled by the relay. -/
theorem ranged_of_requestOn (hrole : e.connections.role.isListener)
    (h : e.requestOn u s = some p) :
    ∃ sent, Connection.Relay.Ranged e.model p sent ∧
      connectionPdus (e.step s).2 = sent.map (·.received) := by
  obtain ⟨hheard, htype, hnamed, -⟩ := requestOn_eq_some.mp h
  obtain ⟨frame, now, accepted, rfl, hcontrol, hstarted, hdecode⟩ := heard_eq_some.mp hheard
  refine ⟨_, e.connections.relay.ranged e.model htype now accepted, ?_⟩
  have hlistener := Connection.MessageType.isForListener_of_isOnSink htype
  rw [step, receive_of_decode hcontrol hstarted hdecode, connectionPdus_multicast,
    Manager.handle_of_isForListener now accepted hrole hlistener hnamed]

/-- The talker's answer tells whether the stream output is one of those that are counted. -/
theorem sent_of_commandOn (hrole : e.connections.role.isTalker) {c : Configuration}
    (hcounted : e.model.Counted c) {v : UInt16} (h : e.commandOn v s = some p) :
    (e.model.entity.talkerStreamSources ≤ v →
      connectionPdus (e.step s).2 = [p.respond .talkerUnknownId]) ∧
    (v < e.model.entity.talkerStreamSources →
      ∃ answer, connectionPdus (e.step s).2 = [answer] ∧
        answer.messageType = p.messageType.toResponse ∧ answer.status ≠ .talkerUnknownId) := by
  obtain ⟨-, htype, -, rfl⟩ := commandOn_eq_some.mp h
  have hcount := hcounted.isSome_source? p.talkerUniqueId
  have hanswer := Connection.Talker.ranged e.model htype
  rw [(step_of_commandOn hrole h).2]
  generalize (Connection.Talker.respond e.model p).2 = sent at hanswer ⊢
  cases hanswer with
  | unknown hsource =>
    constructor
    · intro _
      rw [List.map_singleton, Pdu.received_respond p (by decide)]
    · intro hlt
      rw [← hcount, hsource] at hlt
      cases hlt
  | @known answer hsource hresponse hstatus =>
    obtain ⟨hbits, hne⟩ := Connection.Talker.bounds_of_mem_statuses _ hstatus
    constructor
    · intro hle
      exact absurd (hcount.mp hsource) (UInt16.not_lt.mpr hle)
    · intro _
      refine ⟨answer, ?_, hresponse, hne⟩
      rw [List.map_singleton, Pdu.received_eq_self hbits]

/-- What the listener sends in turn tells whether the stream input is one of those that are
counted. -/
theorem sent_of_requestOn (hrole : e.connections.role.isListener) {c : Configuration}
    (hcounted : e.model.Counted c) (h : e.requestOn u s = some p) :
    (e.model.entity.listenerStreamSinks ≤ u →
      connectionPdus (e.step s).2 = [p.respond .listenerUnknownId]) ∧
    (u < e.model.entity.listenerStreamSinks →
      ∀ answer ∈ connectionPdus (e.step s).2, answer.status ≠ .listenerUnknownId) := by
  obtain ⟨sent, hsent, hpdus⟩ := ranged_of_requestOn hrole h
  obtain ⟨-, -, -, rfl⟩ := requestOn_eq_some.mp h
  have hcount := hcounted.isSome_sink? p.listenerUniqueId
  rw [hpdus]
  cases hsent with
  | unknown hsink =>
    constructor
    · intro _
      rw [List.map_singleton, Pdu.received_respond p (by decide)]
    · intro hlt
      rw [← hcount, hsink] at hlt
      cases hlt
  | known hsink hstatus =>
    constructor
    · intro hle
      exact absurd (hcount.mp hsink) (UInt16.not_lt.mpr hle)
    · intro _ answer hanswer
      obtain ⟨q, hq, rfl⟩ := List.mem_map.mp hanswer
      obtain ⟨hbits, hne⟩ := Connection.Relay.bounds_of_mem_statuses _ (hstatus q hq)
      rw [Pdu.received_eq_self hbits]
      exact hne

/-! ## All three together -/

/-- All that an entity says of the number of its streams: there are `sources` stream outputs and
`sinks` stream inputs in the configuration in use. -/
structure CountsAgree (e : Endpoint) (sent : List Outgoing) (sources sinks : UInt16) : Prop where
  /-- It announced them. -/
  announced : ∀ p ∈ discoveryPdus sent, p.messageType ≠ .discover →
    p.talkerStreamSources = sources ∧ p.listenerStreamSinks = sinks
  /-- Its ENTITY counts them. -/
  entity : ∀ c, ∃ d : Descriptor.Entity,
    e.model.Reads ⟨c, Kind.entity.code, 0⟩ 0 (.entity d) ∧
    d.currentConfiguration = e.model.current ∧
    d.talkerStreamSources = sources ∧ d.listenerStreamSinks = sinks
  /-- The CONFIGURATION in use lists them. -/
  configuration : ∀ c, ∃ summary : Descriptor.Summary,
    e.model.Reads ⟨c, Kind.configuration.code, e.model.current⟩ 0
      (.numbered e.model.current (.configuration summary)) ∧
    summary.listed .streamOutput = sources ∧ summary.listed .streamInput = sinks
  /-- The talker knows the stream outputs with smaller numbers, and no others. -/
  talker : ∀ v s p, e.commandOn v s = some p →
    (sources ≤ v → connectionPdus (e.step s).2 = [p.respond .talkerUnknownId]) ∧
    (v < sources → ∃ answer, connectionPdus (e.step s).2 = [answer] ∧
      answer.messageType = p.messageType.toResponse ∧ answer.status ≠ .talkerUnknownId)
  /-- The listener knows the stream inputs with smaller numbers, and no others. -/
  listener : ∀ u s p, e.requestOn u s = some p →
    (sinks ≤ u → connectionPdus (e.step s).2 = [p.respond .listenerUnknownId]) ∧
    (u < sinks → ∀ answer ∈ connectionPdus (e.step s).2, answer.status ≠ .listenerUnknownId)

/-- **The protocols agree on the streams**: in every state of an entity whose model was built, what
it announced, what it serves and what connection management knows are the same numbers. -/
theorem countsAgree_of_reaches {tree : Tree} {mac : Mac} {model : Model}
    (hbuild : Model.build tree mac = .ok model) (options : Options) (linkUp : Bool)
    (h : (start model .both options linkUp).Reaches e sent) :
    e.CountsAgree sent model.entity.talkerStreamSources model.entity.listenerStreamSinks := by
  have hbuilt := Model.built_of_build hbuild
  have hshape : e.model.shape = model.shape := h.shape_eq hbuild
  have hentity : e.model.entity = model.entity := h.entity_eq
  have hcurrent : e.model.current = model.current := congrArg (·.currentConfiguration) hentity
  have hrole : e.connections.role = .both := h.role_eq
  obtain ⟨c, hc, hcounted⟩ := Model.exists_counted hbuild
  obtain ⟨node, hnode⟩ := hbuilt.exists_built hc
  constructor
  case announced =>
    intro p hp hdiscover
    exact h.counts_of_mem hp hdiscover
  case entity =>
    intro c'
    refine ⟨model.entity.mapTexts Utf8.beforeNul, ?_, hcurrent.symm, rfl, rfl⟩
    rw [Model.reads_congr hshape]
    exact Model.reads_of_serves (hbuilt.serves_entity c') rfl hbuilt.entity
  case configuration =>
    intro c'
    refine ⟨{ c.summary with objectName := Utf8.beforeNul c.summary.objectName }, ?_, ?_, ?_⟩
    · rw [Model.reads_congr hshape, hcurrent]
      exact Model.reads_of_serves (hbuilt.serves_configuration c' hc) rfl hnode.summary
    · exact (hnode.listed_eq rfl).trans hcounted.sources.symm
    · exact (hnode.listed_eq rfl).trans hcounted.sinks.symm
  case talker =>
    intro v s p hcommand
    rw [← hentity]
    exact sent_of_commandOn (hrole ▸ rfl) (hcounted.congr hshape) hcommand
  case listener =>
    intro u s p hrequest
    rw [← hentity]
    exact sent_of_requestOn (hrole ▸ rfl) (hcounted.congr hshape) hrequest

/-- After it was started, the entity with one stream on either side announces and knows these. -/
theorem countsAgree_duplex :
    Model.build .duplex .duplex = .ok .duplex ∧ ∃ e sent,
      (start .duplex .both {} true).Reaches e sent ∧ e.acmpStarted ∧
      (discoveryPdus sent).map (·.talkerStreamSources) = [1] ∧ e.CountsAgree sent 1 1 := by
  have hreaches : (start .duplex .both {} true).Reaches _ _ :=
    ((Reaches.start.step (.setAcmpStarted true)).step (.tick 0 none)).resetStreams
  exact ⟨Model.build_duplex, _, _, hreaches, rfl, by decide +kernel,
    countsAgree_of_reaches Model.build_duplex {} true hreaches⟩

end Endpoint

end AvbEntity

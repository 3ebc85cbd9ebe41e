import AvbEntity.Proofs.Connection.Codec
import AvbEntity.Proofs.Connection.Talker

/-!
# What the two sides of an entity know of a connection

An entity that is talker and listener at once sends its commands to itself. The talker counts a
connection when it hears the command, and the listener is connected when it hears the answer; in
between there are the answers on their way. Every PDU that is heard keeps this account of one
stream input and one stream output, except for three events that are counted beside it.

## Main definitions

* `Model.held`, `Model.bound`: how often the talker counts a connection, and whether the listener
  has it
* `Connection.Pdu.reports`: the success of the talker that is on its way to the listener
* `Connection.Pdu.isOverbooking`, `Connection.Pdu.isVain`, `Connection.Pdu.isLate`: the three events
* `Connection.Pdu.IsOwn`: what an entity on both sides sends
* `Connection.Pdu.key?`, `Connection.Entry.key`: the command in flight that a PDU belongs to

## Main results

* `Connection.Talker.respond_account`: the account of a command that the talker hears
* `Connection.Relay.settle_account`: the account of an answer that the listener hears
-/

namespace AvbEntity

namespace Model

/-- How often a stream output counts a stream input of the same entity among its listeners. -/
def held (m : Model) (u v : UInt16) : Nat :=
  ((m.source? m.current v).map (·.listeners.count ⟨m.entityId, u⟩)).getD 0

/-- Whether a stream input is connected to a stream output of the same entity, as a number. -/
def bound (m : Model) (u v : UInt16) : Nat :=
  ((m.sink? m.current u).map fun s => (s.isBoundTo m.entityId v).toNat).getD 0

variable {m : Model} {u v : UInt16}

theorem held_of_source? {s : Source} (h : m.source? m.current v = some s) :
    m.held u v = s.listeners.count ⟨m.entityId, u⟩ := by
  rw [held, h, Option.map_some, Option.getD_some]

theorem bound_of_sink? {s : Sink} (h : m.sink? m.current u = some s) :
    m.bound u v = (s.isBoundTo m.entityId v).toNat := by
  rw [bound, h, Option.map_some, Option.getD_some]

theorem held_modifySink (uniqueId : UInt16) (f : Sink → Sink) :
    (m.modifySink m.current uniqueId f).held u v = m.held u v := by
  rw [held, current_modifySink, entityId_modifySink, source?_modifySink]
  rfl

theorem bound_congr {m' : Model} (hentity : m'.entity = m.entity)
    (hsink : m'.sink? m.current u = m.sink? m.current u) : m'.bound u v = m.bound u v := by
  rw [bound, bound, current, entityId, hentity]
  exact congrArg (fun s? : Option Sink => (s?.map fun s => (s.isBoundTo m.entityId v).toNat).getD 0)
    hsink

theorem held_modifySource {s s' : Source} {uniqueId : UInt16}
    (h : m.source? m.current uniqueId = some s) :
    (m.modifySource m.current uniqueId fun _ => s').held u v =
      if uniqueId = v then s'.listeners.count ⟨m.entityId, u⟩ else m.held u v := by
  rw [held, current_modifySource, entityId_modifySource, source?_modifySource]
  by_cases hv : uniqueId = v
  · subst hv
    rw [if_pos ⟨rfl, rfl⟩, if_pos rfl, h]
    rfl
  · rw [if_neg fun hc => hv hc.2, if_neg hv]
    rfl

theorem bound_modifySink {s s' : Sink} {uniqueId : UInt16}
    (h : m.sink? m.current uniqueId = some s) :
    (m.modifySink m.current uniqueId fun _ => s').bound u v =
      if uniqueId = u then (s'.isBoundTo m.entityId v).toNat else m.bound u v := by
  rw [bound, current_modifySink, entityId_modifySink, sink?_modifySink]
  by_cases hu : uniqueId = u
  · subst hu
    rw [if_pos ⟨rfl, rfl⟩, if_pos rfl, h]
    rfl
  · rw [if_neg fun hc => hu hc.2, if_neg hu]
    rfl

end Model

namespace Connection

namespace Pdu

/-- The success of a talker that a stream input was connected to a stream output, or disconnected
from it. -/
def reports (u v : UInt16) (x : Exchange) (p : Pdu) : Bool :=
  p.messageType == .response x && p.status.isSuccess && p.listenerUniqueId == u &&
    p.talkerUniqueId == v

/-- **Overbooking**: the talker reports a connection to a stream input that is connected already. -/
def isOverbooking (m : Model) (u v : UInt16) (p : Pdu) : Bool :=
  p.reports u v .connectTx && (m.sink? m.current u).any (·.connected)

/-- **Vain**: the talker is told to end a connection that it does not have. -/
def isVain (m : Model) (u v : UInt16) (p : Pdu) : Bool :=
  p.messageType == .command .disconnectTx && p.listenerUniqueId == u && p.talkerUniqueId == v &&
    (m.source? m.current v).any (!·.listeners.contains ⟨m.entityId, u⟩)

/-- **Late**: the talker reports the end of a connection that the stream input does not have any
more. -/
def isLate (m : Model) (u v : UInt16) (p : Pdu) : Bool :=
  p.reports u v .disconnectTx && m.bound u v == 0

/-- A PDU answers another one: about the same streams, and under the same sequence number. -/
structure Answers (p answer : Pdu) (x : Exchange) : Prop where
  messageType : answer.messageType = .response x
  sequenceId : answer.sequenceId = p.sequenceId
  listenerEntityId : answer.listenerEntityId = p.listenerEntityId
  talkerEntityId : answer.talkerEntityId = p.talkerEntityId
  listenerUniqueId : answer.listenerUniqueId = p.listenerUniqueId
  talkerUniqueId : answer.talkerUniqueId = p.talkerUniqueId

theorem reports_of_messageType {p : Pdu} {x : Exchange} (h : p.messageType ≠ .response x)
    (u v : UInt16) : p.reports u v x = false := by
  rw [reports, beq_eq_false_iff_ne.mpr h, Bool.false_and, Bool.false_and, Bool.false_and]

theorem reports_of_command {p : Pdu} {y : Exchange} (h : p.messageType = .command y)
    (u v : UInt16) (x : Exchange) : p.reports u v x = false := by
  apply reports_of_messageType
  rw [h]
  exact fun heq => MessageType.noConfusion heq

theorem reports_of_status {p : Pdu} (h : p.status.isSuccess = false) (u v : UInt16)
    (x : Exchange) : p.reports u v x = false := by
  rw [reports, h, Bool.and_false, Bool.false_and, Bool.false_and]

/-- A success reports of the stream input that it names. -/
theorem reports_self {p : Pdu} {x : Exchange} (htype : p.messageType = .response x)
    (hagreed : p.status = .success) (v : UInt16) :
    p.reports p.listenerUniqueId v x = (p.talkerUniqueId == v) := by
  have hsuccess : p.status.isSuccess = true := beq_iff_eq.mpr hagreed
  rw [reports, htype, hsuccess, beq_self_eq_true, beq_self_eq_true, Bool.true_and, Bool.true_and,
    Bool.true_and]

theorem isLate_of_reports {m : Model} {u v : UInt16} {p : Pdu}
    (h : p.reports u v .disconnectTx = false) : p.isLate m u v = false := by
  rw [isLate, h, Bool.false_and]

theorem isOverbooking_of_reports {m : Model} {u v : UInt16} {p : Pdu}
    (h : p.reports u v .connectTx = false) : p.isOverbooking m u v = false := by
  rw [isOverbooking, h, Bool.false_and]

theorem isVain_of_messageType {p : Pdu} (h : p.messageType ≠ .command .disconnectTx) (m : Model)
    (u v : UInt16) : p.isVain m u v = false := by
  rw [isVain, beq_eq_false_iff_ne.mpr h, Bool.false_and, Bool.false_and, Bool.false_and]

end Pdu

/-! ## What goes from one side to the other -/

/-- The command in flight to which a PDU between the two sides belongs: its type and its sequence
number. -/
def Pdu.key? (p : Pdu) : Option (MessageType × UInt16) :=
  match p.messageType.exchange with
  | .connectTx => some (.command .connectTx, p.sequenceId)
  | .disconnectTx => some (.command .disconnectTx, p.sequenceId)
  | _ => none

/-- The type and the sequence number of a command in flight. -/
def Entry.key (e : Entry) : MessageType × UInt16 :=
  (e.command.messageType, e.command.sequenceId)

/-- A PDU is a command to the talker or its answer, on a stream input. -/
def Pdu.concerns (u : UInt16) (p : Pdu) : Bool :=
  p.key?.isSome && p.listenerUniqueId == u

/-- A PDU goes from one side of an entity to its other side, on a stream input that it has. -/
structure Pdu.IsInternal (m : Model) (p : Pdu) : Prop where
  listener : p.listenerEntityId = m.entityId
  talker : p.talkerEntityId = m.entityId
  sink : (m.sink? m.current p.listenerUniqueId).isSome

/-- What is on its way from an entity on both sides: answers to controllers, and the commands and
answers between its two sides. -/
inductive Pdu.IsOwn (m : Model) (p : Pdu) : Prop
  | reply (htype : p.messageType.isReply)
  | command {x : Exchange} (hx : x.IsRelayed) (htype : p.messageType = .command x)
    (h : p.IsInternal m)
  | response {x : Exchange} (hx : x.IsRelayed) (htype : p.messageType = .response x)
    (h : p.IsInternal m)

/-- What an entity sent stays its own while it keeps its identity and its stream inputs. -/
theorem Pdu.IsOwn.congr {m m' : Model} {p : Pdu} (h : p.IsOwn m) (hentity : m'.entity = m.entity)
    (hsinks : ∀ u, (m'.sink? m.current u).isSome = (m.sink? m.current u).isSome) : p.IsOwn m' := by
  have hinternal : p.IsInternal m → p.IsInternal m' := by
    intro hp
    refine ⟨?_, ?_, ?_⟩
    · rw [Model.entityId, hentity]
      exact hp.listener
    · rw [Model.entityId, hentity]
      exact hp.talker
    · rw [Model.current, hentity]
      exact (hsinks _).trans hp.sink
  rcases h with htype | ⟨hx, htype, hp⟩ | ⟨hx, htype, hp⟩
  · exact .reply htype
  · exact .command hx htype (hinternal hp)
  · exact .response hx htype (hinternal hp)

theorem Pdu.key?_of_exchange {p : Pdu} {x : Exchange} (hx : x.IsRelayed)
    (h : p.messageType.exchange = x) : p.key? = some (.command x, p.sequenceId) := by
  rw [key?, h]
  rcases hx with rfl | rfl <;> rfl

theorem Pdu.key?_of_isReply {p : Pdu} (h : p.messageType.isReply) : p.key? = none := by
  unfold MessageType.isReply at h
  unfold key?
  split at h <;> simp_all [MessageType.exchange]

theorem Pdu.reports_of_isReply {p : Pdu} (h : p.messageType.isReply) (u v : UInt16)
    {x : Exchange} (hx : x.IsRelayed) : p.reports u v x = false := by
  apply reports_of_messageType
  intro hp
  rw [hp] at h
  rcases hx with rfl | rfl <;> exact absurd h Bool.false_ne_true

theorem Pdu.reports_iff {u v : UInt16} {x : Exchange} {p : Pdu} :
    p.reports u v x = true ↔ p.messageType = .response x ∧ p.status.isSuccess = true ∧
      p.listenerUniqueId = u ∧ p.talkerUniqueId = v := by
  simp only [reports, Bool.and_eq_true, beq_iff_eq, and_assoc]

theorem Pdu.concerns_iff {u : UInt16} {p : Pdu} :
    p.concerns u = true ↔ p.key?.isSome = true ∧ p.listenerUniqueId = u := by
  rw [concerns, Bool.and_eq_true, beq_iff_eq]

/-- What goes between the two sides is not for controllers. -/
theorem Pdu.IsOwn.internal {m : Model} {p : Pdu} (h : p.IsOwn m) (hkey : p.key?.isSome) :
    p.IsInternal m := by
  rcases h with htype | ⟨hx, htype, h⟩ | ⟨hx, htype, h⟩
  · rw [key?_of_isReply htype] at hkey
    exact absurd hkey Bool.false_ne_true
  · exact h
  · exact h

theorem Pdu.concerns_of_exchange {u : UInt16} {x : Exchange} (hx : x.IsRelayed) {p : Pdu}
    (hexchange : p.messageType.exchange = x) (hu : p.listenerUniqueId = u) : p.concerns u := by
  refine concerns_iff.mpr ⟨?_, hu⟩
  rw [key?_of_exchange hx hexchange]
  rfl

/-- A PDU between the two sides fits the stream input that it is about: a connection, when it is
free, and a disconnection, when it is connected as the PDU says. -/
def Pdu.Fits (m : Model) (p : Pdu) : Prop :=
  ∀ s, m.sink? m.current p.listenerUniqueId = some s →
    Relay.refusal s p p.messageType.exchange = none

theorem Relay.refusal_connectTx {s : Sink} {p : Pdu} (h : refusal s p .connectTx = none) :
    s.connected = false := by
  simpa [refusal] using h

theorem Relay.refusal_disconnectTx {s : Sink} {p : Pdu} (h : refusal s p .disconnectTx = none) :
    s.isBoundTo p.talkerEntityId p.talkerUniqueId = true := by
  simpa [refusal] using h

/-- A disconnection that fits is of a connection that the listener has. -/
theorem Pdu.Fits.bound_eq {m : Model} {p : Pdu} (h : p.Fits m) (hinternal : p.IsInternal m)
    (hexchange : p.messageType.exchange = .disconnectTx) :
    m.bound p.listenerUniqueId p.talkerUniqueId = 1 := by
  obtain ⟨s, hs⟩ := Option.isSome_iff_exists.mp hinternal.sink
  have hrefusal := h s hs
  rw [hexchange] at hrefusal
  have hbound := Relay.refusal_disconnectTx hrefusal
  rw [hinternal.talker] at hbound
  rw [Model.bound_of_sink? hs, hbound]
  rfl

theorem Pdu.Fits.congr {m m' : Model} {p : Pdu} (h : p.Fits m) (hentity : m'.entity = m.entity)
    (hsink : m'.sink? m.current p.listenerUniqueId = m.sink? m.current p.listenerUniqueId) :
    p.Fits m' := by
  intro s hs
  rw [Model.current, hentity] at hs
  exact h s (hsink.symm.trans hs)

/-- The answer fits if the command does. -/
theorem Pdu.Answers.fits {m : Model} {p answer : Pdu} {x : Exchange} (h : p.Answers answer x)
    (hexchange : p.messageType.exchange = x) (hfits : p.Fits m) : answer.received.Fits m := by
  intro s hs
  rw [received_listenerUniqueId, h.listenerUniqueId] at hs
  have hrefusal := hfits s hs
  have hexchange' : answer.received.messageType.exchange = x :=
    congrArg MessageType.exchange h.messageType
  have hentityId : answer.received.talkerEntityId = p.talkerEntityId := h.talkerEntityId
  have huniqueId : answer.received.talkerUniqueId = p.talkerUniqueId := h.talkerUniqueId
  rw [hexchange] at hrefusal
  rw [hexchange', ← hrefusal]
  unfold Relay.refusal
  rw [hentityId, huniqueId]

/-- A success is reported of the streams that the command was about. -/
theorem Pdu.Answers.reports {p answer : Pdu} {x : Exchange} (h : p.Answers answer x)
    (hstatus : answer.status = .success) (u v : UInt16) :
    answer.received.reports u v x = (p.listenerUniqueId == u && p.talkerUniqueId == v) := by
  have hsuccess : answer.received.status.isSuccess = true := by
    rw [received, hstatus]
    rfl
  rw [Pdu.reports, hsuccess, received_messageType, h.messageType, beq_self_eq_true, Bool.true_and,
    Bool.true_and, received_listenerUniqueId, h.listenerUniqueId]
  exact congrArg (_ && · == v) h.talkerUniqueId

theorem Pdu.Answers.reports_of_ne {p answer : Pdu} {x y : Exchange} (h : p.Answers answer x)
    (hxy : x ≠ y) (u v : UInt16) : answer.received.reports u v y = false := by
  apply reports_of_messageType
  rw [received_messageType, h.messageType]
  exact fun heq => hxy (MessageType.response.inj heq)

/-! ## The talker hears a command -/

namespace Talker

/-- A command that is carried out is answered about the same streams. -/
theorem answers_of_act {s s' : Source} {p answer : Pdu} {x : Exchange} (hx : x.IsRelayed)
    (htype : p.messageType = .command x) (hact : act s p = some (s', answer)) :
    p.Answers answer x := by
  have hresponse : p.messageType.toResponse = .response x := htype ▸ rfl
  rw [act, htype] at hact
  rcases hx with rfl | rfl
  · obtain ⟨-, rfl⟩ := Prod.mk.inj (Option.some.inj hact)
    split <;> exact ⟨hresponse, rfl, rfl, rfl, rfl, rfl⟩
  · obtain ⟨-, rfl⟩ := Prod.mk.inj (Option.some.inj hact)
    exact ⟨hresponse, rfl, rfl, rfl, rfl, rfl⟩

/-- The talker answers each command of the listener, about the same streams. -/
theorem answers_respond (m : Model) {p : Pdu} {x : Exchange} (hx : x.IsRelayed)
    (htype : p.messageType = .command x) :
    ∃ answer, (respond m p).2 = [answer] ∧ p.Answers answer x := by
  have hresponse : p.messageType.toResponse = .response x := htype ▸ rfl
  have htalker : p.messageType.isForTalker := htype ▸ MessageType.isForTalker_of_isRelayed hx
  have hend := responded m htalker
  generalize respond m p = result at hend ⊢
  cases hend with
  | unknown hsource => exact ⟨_, rfl, hresponse, rfl, rfl, rfl, rfl, rfl⟩
  | @answered s s' answer hsource hact => exact ⟨answer, rfl, answers_of_act hx htype hact⟩

/-- A command to connect counts once more, and its success is on its way. -/
theorem connect_account {m : Model} {p : Pdu} {s : Source}
    (hanswers : p.Answers (connect s p).2 .connectTx) (hlistener : p.listenerEntityId = m.entityId)
    (hsource : m.source? m.current p.talkerUniqueId = some s) (u v : UInt16) :
    (m.modifySource m.current p.talkerUniqueId fun _ => (connect s p).1).held u v =
      ((connect s p).2.received.reports u v .connectTx).toNat + m.held u v := by
  rw [Model.held_modifySource hsource]
  cases hconnect : s.connect (listener p) with
  | none =>
    have hresult : connect s p = (s, describe (p.respond .talkerMisbehaving) s) := by
      rw [connect, hconnect]
    rw [hresult, Pdu.reports_of_status rfl, Bool.toNat_false, Nat.zero_add]
    split
    next hv => rw [← hv, Model.held_of_source? hsource]
    next => rfl
  | some s' =>
    have hresult : connect s p = (s', describe (p.respond .success) s') := by
      rw [connect, hconnect]
    rw [hanswers.reports (by rw [hresult]; rfl), hresult]
    by_cases hv : p.talkerUniqueId = v
    · subst hv
      rw [if_pos rfl, listeners_of_connect hconnect, Model.held_of_source? hsource,
        beq_self_eq_true, Bool.and_true, List.count_append, listener, hlistener, Nat.add_comm]
      by_cases hu : p.listenerUniqueId = u
      · simp [hu]
      · simp [hu]
    · simp [hv]

/-- A command to disconnect counts once less, unless it is vain, and its success is on its way. -/
theorem disconnect_account {m : Model} {p : Pdu} {s : Source}
    (htype : p.messageType = .command .disconnectTx)
    (hanswers : p.Answers (disconnect s p).2 .disconnectTx)
    (hlistener : p.listenerEntityId = m.entityId)
    (hsource : m.source? m.current p.talkerUniqueId = some s) (u v : UInt16) :
    (m.modifySource m.current p.talkerUniqueId fun _ => (disconnect s p).1).held u v +
        ((disconnect s p).2.received.reports u v .disconnectTx).toNat =
      (p.isVain m u v).toNat + m.held u v := by
  have hlisteners : (disconnect s p).1.listeners =
      s.listeners.erase ⟨m.entityId, p.listenerUniqueId⟩ := by
    rw [disconnect, listeners_disconnect, listener, hlistener]
  rw [Model.held_modifySource hsource, hanswers.reports rfl, Pdu.isVain, htype, beq_self_eq_true,
    Bool.true_and, hlisteners]
  by_cases hv : p.talkerUniqueId = v
  · subst hv
    rw [if_pos rfl, Model.held_of_source? hsource, hsource, Option.any_some]
    by_cases hu : p.listenerUniqueId = u
    · subst hu
      have hcount := List.count_erase_self (a := (⟨m.entityId, p.listenerUniqueId⟩ : Listener))
        (l := s.listeners)
      rw [hcount]
      by_cases hmem : (⟨m.entityId, p.listenerUniqueId⟩ : Listener) ∈ s.listeners
      · simp [hmem]
      · simp [hmem, List.count_eq_zero_of_not_mem hmem]
    · have hne : (⟨m.entityId, u⟩ : Listener) ≠ ⟨m.entityId, p.listenerUniqueId⟩ :=
        fun h => hu (Listener.mk.inj h).2.symm
      rw [List.count_erase_of_ne hne, beq_eq_false_iff_ne.mpr hu, Bool.false_and, Bool.false_and,
        Bool.toNat_false, Nat.add_zero, Nat.zero_add]
  · rw [if_neg hv, beq_eq_false_iff_ne.mpr hv, Bool.and_false, Bool.false_and, Bool.toNat_false,
      Nat.add_zero, Nat.zero_add]

/-- **The talker's account**: what is counted for a stream input changes as the answer says, and
by a vain command not at all. -/
theorem respond_account {m : Model} {p : Pdu} {x : Exchange} (hx : x.IsRelayed)
    (htype : p.messageType = .command x) (hlistener : p.listenerEntityId = m.entityId) :
    ∃ answer, (respond m p).2 = [answer] ∧ p.Answers answer x ∧ ∀ u v,
      (respond m p).1.held u v + (answer.received.reports u v .disconnectTx).toNat =
        (answer.received.reports u v .connectTx).toNat + (p.isVain m u v).toNat + m.held u v := by
  obtain ⟨answer, hanswer, hanswers⟩ := answers_respond m hx htype
  refine ⟨answer, hanswer, hanswers, fun u v => ?_⟩
  have htalker : p.messageType.isForTalker := htype ▸ MessageType.isForTalker_of_isRelayed hx
  have hend := responded m htalker
  generalize respond m p = result at hend hanswer ⊢
  cases hend with
  | unknown hsource =>
    obtain rfl := List.singleton_inj.mp hanswer
    have hvain : p.isVain m u v = false := by
      rw [Pdu.isVain]
      by_cases hv : p.talkerUniqueId = v
      · rw [← hv, hsource, Option.any_none, Bool.and_false]
      · rw [beq_eq_false_iff_ne.mpr hv, Bool.and_false, Bool.false_and]
    rw [Pdu.reports_of_status rfl, Pdu.reports_of_status rfl, hvain]
    simp
  | @answered s s' answer' hsource hact =>
    obtain rfl := List.singleton_inj.mp hanswer
    rw [act, htype] at hact
    rcases hx with rfl | rfl
    · have hvain := Pdu.isVain_of_messageType (p := p) (by rw [htype]; decide) m u v
      obtain ⟨rfl, rfl⟩ := Prod.mk.inj (Option.some.inj hact)
      rw [hanswers.reports_of_ne (by decide), hvain]
      exact connect_account hanswers hlistener hsource u v
    · obtain ⟨rfl, rfl⟩ := Prod.mk.inj (Option.some.inj hact)
      rw [hanswers.reports_of_ne (y := .connectTx) (by decide), Bool.toNat_false, Nat.zero_add]
      exact disconnect_account htype hanswers hlistener hsource u v

end Talker

/-! ## The listener hears an answer -/

namespace Relay

/-- What an answer makes of its stream input, in numbers. -/
theorem conclude_account {m : Model} {p : Pdu} {x : Exchange} {s : Sink} (hx : x.IsRelayed)
    (htype : p.messageType = .response x) (htalker : p.talkerEntityId = m.entityId)
    (hsink : m.sink? m.current p.listenerUniqueId = some s) (v : UInt16) :
    (p.isLate m p.listenerUniqueId v).toNat + m.bound p.listenerUniqueId v +
        (p.reports p.listenerUniqueId v .connectTx).toNat =
      ((conclude s p x).1.isBoundTo m.entityId v).toNat +
        (p.isOverbooking m p.listenerUniqueId v).toNat +
        (p.reports p.listenerUniqueId v .disconnectTx).toNat := by
  rw [Pdu.isLate, Pdu.isOverbooking, hsink, Option.any_some, Model.bound_of_sink? hsink]
  have hend := judged s p hx
  generalize conclude s p x = result at hend ⊢
  cases hend with
  | refused hrefused =>
    simp [Pdu.reports_of_status (beq_eq_false_iff_ne.mpr hrefused)]
  | connected hagreed hfree =>
    rw [Pdu.reports_of_messageType (x := .disconnectTx) (by rw [htype]; decide)]
    simp [Sink.recorded, Sink.isBoundTo, Pdu.reports_self htype hagreed, hfree, htalker]
  | exclusive hagreed hconnected =>
    rw [Pdu.reports_of_messageType (x := .disconnectTx) (by rw [htype]; decide)]
    simp [hconnected]
  | disconnected hagreed hbound =>
    rw [Pdu.reports_of_messageType (x := .connectTx) (by rw [htype]; decide),
      Pdu.reports_self htype hagreed]
    rw [htalker] at hbound
    have hfresh : (Sink.fresh s.listenerUniqueId).isBoundTo m.entityId v = false := rfl
    rw [hfresh]
    by_cases hv : p.talkerUniqueId = v
    · subst hv
      simp [hbound]
    · have hother : s.isBoundTo m.entityId v = false := by
        rw [Sink.isBoundTo, Bool.and_eq_true, beq_iff_eq] at hbound
        rw [Sink.isBoundTo, hbound.2, beq_eq_false_iff_ne.mpr hv, Bool.and_false]
      simp [hother, beq_eq_false_iff_ne.mpr hv]
  | misbehaving hagreed hunbound =>
    rw [Pdu.reports_of_messageType (x := .connectTx) (by rw [htype]; decide),
      Pdu.reports_self htype hagreed]
    rw [htalker] at hunbound
    by_cases hv : p.talkerUniqueId = v
    · subst hv
      simp [hunbound]
    · simp [beq_eq_false_iff_ne.mpr hv]

/-- The listener leaves what the talker counts. -/
theorem held_settle (r : Relay) (m : Model) (p : Pdu) (x : Exchange) (u v : UInt16) :
    (r.settle m p x).2.1.held u v = m.held u v := by
  have hend := settled r m p x
  generalize r.settle m p x = result at hend ⊢
  cases hend with
  | unknown hsink => rfl
  | unsolicited hsink htake => rfl
  | answered hsink htake => exact Model.held_modifySink ..

/-- **The listener's account**: an answer to a command in flight is taken from those on their way,
and the stream input changes as the answer says, unless the answer is an overbooking or late. -/
theorem settle_account {r : Relay} {m : Model} {p : Pdu} {x : Exchange} (hx : x.IsRelayed)
    (htype : p.messageType = .response x) (htalker : p.talkerEntityId = m.entityId)
    (hsink : (m.sink? m.current p.listenerUniqueId).isSome)
    (hmem : ∃ e ∈ r.inFlight.entries, e.isFor (.command x) p.sequenceId) :
    ∃ e t reply, (r.settle m p x).1 = { r with inFlight := t } ∧ (r.settle m p x).2.2 = [reply] ∧
      r.inFlight.entries.Perm (e :: t.entries) ∧ e.isFor (.command x) p.sequenceId ∧
      reply.messageType.isReply ∧
      ∀ u v, (p.isLate m u v).toNat + m.bound u v + (p.reports u v .connectTx).toNat =
        (r.settle m p x).2.1.bound u v + (p.isOverbooking m u v).toNat +
          (p.reports u v .disconnectTx).toNat := by
  have hend := settled r m p x
  generalize r.settle m p x = result at hend ⊢
  cases hend with
  | unknown hnone =>
    rw [hnone] at hsink
    exact absurd hsink Bool.false_ne_true
  | unsolicited hsome htake =>
    obtain ⟨e, he, hfor⟩ := hmem
    exact absurd ((InFlight.take?_eq_none.mp htake e he).symm.trans hfor) Bool.false_ne_true
  | @answered s e t hsome htake =>
    obtain ⟨hperm, hfor⟩ := InFlight.entries_take?_perm htake
    refine ⟨e, t, reply s p x e, rfl, rfl, hperm, Entry.isFor_iff.mpr hfor,
      MessageType.isReply_ofController x, fun u v => ?_⟩
    rw [Model.bound_modifySink hsome]
    by_cases hu : p.listenerUniqueId = u
    · subst hu
      rw [if_pos rfl]
      exact conclude_account hx htype htalker hsome v
    · have hreports : ∀ y, p.reports u v y = false := fun y => by
        rw [Pdu.reports, beq_eq_false_iff_ne.mpr hu, Bool.and_false, Bool.false_and]
      rw [if_neg hu, Pdu.isLate, Pdu.isOverbooking, hreports, hreports, Bool.false_and,
        Bool.false_and, Bool.toNat_false, Nat.zero_add]

end Relay

end Connection

end AvbEntity

import AvbEntity.Proofs.Connection.Manager
import AvbEntity.Proofs.Model.Shape
import Mathlib.Data.List.Nodup

/-!
# Answers in any order

Several commands may wait for their talkers together, for different stream inputs or for the same
one, and the talkers answer in any order. While the commands in flight have different sequence
numbers, each answer finds its own command, whatever came before it: a controller is answered once,
one slot is freed, and after the last answer nothing is in flight.

An answer changes the stream input that later answers look at. Of several controllers that want the
same stream input the first one whose talker agrees gets it, and the others hear that it is taken,
until it is disconnected.

## Main definitions

* `InFlight.NumberedApart`: the commands in flight have different sequence numbers
* `Answer`, `Delivery`: what a talker answers, and the answer as it arrives
* `Delivery.Verdict`: what an answer makes of the stream input, and what the controller hears
* `Relay.Serves`: the commands in flight are for stream inputs of the entity
* `Delivery.Concludes`: what comes of one answer
* `Delivery.Settles`: what comes of all of them

## Main results

* `Relay.Serves.handle`, `Relay.Serves.tick`: what comes to be in flight
* `Awaits.concludes`, `Awaits.next`: one answer, and what the others find after it
* `Awaits.settles`: all answers, in the order in which they come
-/

namespace AvbEntity

/-- A stream input that is replaced by itself. -/
theorem Model.modifySink_eq_self {m : Model} {configuration uniqueId : UInt16} {s : Sink}
    (h : m.sink? configuration uniqueId = some s) :
    m.modifySink configuration uniqueId (fun _ => s) = m := by
  refine modify_eq_self fun c hc => ?_
  have hsink : c.sinks[uniqueId.toNat]? = some s := by
    rwa [sink?, hc] at h
  have hsame := map_modify_of_getElem? (f := fun _ => s) (g := id) fun a ha =>
    Option.some.inj (hsink.symm.trans ha)
  rw [List.map_id, List.map_id] at hsame
  rw [hsame]

/-- A stream input of the configuration in use is connected. -/
def Model.isConnected (m : Model) (uniqueId : UInt16) : Bool :=
  (m.sink? m.current uniqueId).any (·.connected)

namespace Model

variable {m : Model} {u : UInt16}

theorem isConnected_modifySink_self {s : Sink} (h : m.sink? m.current u = some s) (s' : Sink) :
    (m.modifySink m.current u fun _ => s').isConnected u = s'.connected := by
  rw [isConnected, current_modifySink, sink?_modifySink, if_pos ⟨rfl, rfl⟩, h]
  rfl

theorem isConnected_modifySink_of_ne {v : UInt16} (h : v ≠ u) (f : Sink → Sink) :
    (m.modifySink m.current v f).isConnected u = m.isConnected u := by
  rw [isConnected, current_modifySink, sink?_modifySink, if_neg fun huv => h huv.2, isConnected]

end Model

namespace Connection

/-! ## The answers -/

/-- The commands in flight have different sequence numbers. -/
def InFlight.NumberedApart (t : InFlight) : Prop :=
  (t.entries.map (·.command.sequenceId)).Nodup

namespace InFlight.NumberedApart

variable {t : InFlight} {slot : Nat} {e : Entry}

/-- An answer takes the command that it is for. -/
theorem take?_eq (h : t.NumberedApart) (hmem : e ∈ t.entries) :
    ∃ slot, t.get? slot = some e ∧
      t.take? e.command.messageType e.command.sequenceId = some (e, t.remove slot) := by
  cases htake : t.take? e.command.messageType e.command.sequenceId with
  | none =>
    have hunmatched := take?_eq_none.mp htake e hmem
    rw [Entry.isFor_iff.mpr ⟨rfl, rfl⟩] at hunmatched
    exact absurd hunmatched.symm Bool.false_ne_true
  | some taken =>
    obtain ⟨e', t'⟩ := taken
    obtain ⟨hperm, -, hnumber⟩ := entries_take?_perm htake
    obtain ⟨slot, hfirst, rfl⟩ := take?_eq_some.mp htake
    have hmem' : e' ∈ t.entries := hperm.mem_iff.mpr List.mem_cons_self
    obtain rfl := List.inj_on_of_nodup_map h hmem' hmem hnumber
    exact ⟨slot, hfirst.get, rfl⟩

theorem remove (h : t.NumberedApart) (hget : t.get? slot = some e) :
    (t.remove slot).NumberedApart := by
  have hperm := (entries_remove_perm hget).map (·.command.sequenceId)
  exact (List.nodup_cons.mp (hperm.nodup_iff.mp h)).2

end InFlight.NumberedApart

/-- What a talker answers; the rest of its answer repeats the command. -/
structure Answer where
  status : Status
  streamId : Eui64
  streamDestMac : Mac
  streamVlanId : UInt16
  flags : UInt16
  connectionCount : UInt16
  deriving DecidableEq

/-- The answer to a command in flight, as it arrives. -/
structure Delivery where
  entry : Entry
  answer : Answer
  now : Time
  /-- The network accepts the first frame sent in turn. -/
  accepted : Bool
  deriving DecidableEq

namespace Delivery

/-- The command turned into its response. -/
def pdu (d : Delivery) : Pdu :=
  { d.entry.command.respond d.answer.status with
    streamId := d.answer.streamId
    streamDestMac := d.answer.streamDestMac
    streamVlanId := d.answer.streamVlanId
    flags := d.answer.flags
    connectionCount := d.answer.connectionCount }

/-- The answer for the controller: of its own exchange, under its own number, and otherwise as the
talker answered. -/
def reply (d : Delivery) (status : Status) : Pdu :=
  { d.pdu with
    messageType := .response d.entry.command.messageType.exchange.ofController
    status
    sequenceId := d.entry.controllerSequenceId }

/-- The answer is for an exchange on a stream input. -/
structure IsFor (d : Delivery) (x : Exchange) (uniqueId : UInt16) : Prop where
  messageType : d.entry.command.messageType = .command x
  listenerUniqueId : d.entry.command.listenerUniqueId = uniqueId

theorem IsFor.exchange_eq {d : Delivery} {x y : Exchange} {u v : UInt16} (h : d.IsFor x u)
    (h' : d.IsFor y v) : x = y :=
  MessageType.command.inj (h.messageType.symm.trans h'.messageType)

variable (d : Delivery) (s : Manager × Model)

/-- The answer handled. -/
def result : Manager × Model × List Pdu :=
  s.1.handle s.2 d.pdu d.now d.accepted

/-- The manager and the model after the answer. -/
def next : Manager × Model :=
  ((d.result s).1, (d.result s).2.1)

/-- The manager and the model after answers in turn. -/
def after (ds : List Delivery) : Manager × Model :=
  ds.foldl (fun s d => d.next s) s

/-- Nothing is sent in turn but one reply with the status. -/
def Tells (status : Status) : Prop :=
  (d.result s).2.2 = [d.reply status]

variable {d s}

theorem after_append (xs ys : List Delivery) : after s (xs ++ ys) = after (after s xs) ys :=
  List.foldl_append

theorem after_append_cons (xs : List Delivery) (d : Delivery) (ys : List Delivery) :
    after s (xs ++ d :: ys) = after (d.next (after s xs)) ys :=
  after_append xs (d :: ys)

theorem Tells.status_eq {status status' : Status} (h : d.Tells s status) (h' : d.Tells s status') :
    status = status' :=
  congrArg Pdu.status (List.singleton_inj.mp (h.symm.trans h'))

/-! ## What an answer makes of the stream input -/

/-- What is made of an answer for a stream input of the configuration in use: the status that its
controller hears, and the model afterwards. -/
inductive Verdict (d : Delivery) (m : Model) : Status → Model → Prop
  | judged {x : Exchange} {u : UInt16} {s s' : Sink} {status : Status} (hfor : d.IsFor x u)
    (hsink : m.sink? m.current u = some s) (hjudged : Relay.Judged s d.pdu x (s', status)) :
    Verdict d m status (m.modifySink m.current u fun _ => s')

namespace Verdict

variable {m m' : Model} {status : Status} {u : UInt16} (h : d.Verdict m status m')
include h

/-- The model keeps its shape. -/
theorem shape_eq : m'.shape = m.shape := by
  cases h with
  | judged hfor hsink hjudged => exact Model.shape_modifySink ..

/-- A refusal is passed on, and changes nothing. -/
theorem of_refused (hrefused : d.answer.status ≠ .success) :
    status = d.answer.status ∧ m' = m := by
  cases h with
  | judged hfor hsink hjudged =>
    cases hjudged with
    | refused hrefused' => exact ⟨rfl, Model.modifySink_eq_self hsink⟩
    | connected hagreed hfree => exact absurd hagreed hrefused
    | exclusive hagreed hconnected => exact absurd hagreed hrefused
    | disconnected hagreed hbound => exact absurd hagreed hrefused
    | misbehaving hagreed hunbound => exact absurd hagreed hrefused

/-- A talker's agreement to a connection is passed on, unless the stream input is taken. -/
theorem of_connect (hagreed : d.answer.status = .success) (hfor : d.IsFor .connectTx u) :
    status = .success ∨ status = .listenerExclusive := by
  cases h with
  | judged hfor' hsink hjudged =>
    obtain rfl := hfor'.exchange_eq hfor
    cases hjudged with
    | refused hrefused => exact absurd hagreed hrefused
    | connected hagreed hfree => exact .inl rfl
    | exclusive hagreed hconnected => exact .inr rfl

/-- A stream input becomes connected where a controller hears so, and was not connected before. -/
theorem connects (hstatus : status = .success) (hfor : d.IsFor .connectTx u) :
    m.isConnected u = false ∧ m'.isConnected u = true := by
  cases h with
  | judged hfor' hsink hjudged =>
    obtain rfl := hfor'.exchange_eq hfor
    obtain rfl := hfor'.listenerUniqueId.symm.trans hfor.listenerUniqueId
    rw [Model.isConnected_modifySink_self hsink, Model.isConnected, hsink]
    cases hjudged with
    | refused hrefused => exact absurd hstatus hrefused
    | connected hagreed hfree =>
      exact ⟨hfree, rfl⟩
    | exclusive hagreed hconnected => exact absurd hstatus (by decide)

/-- Only a disconnection that its controller hears of ends a connection. -/
theorem keeps (hconnected : m.isConnected u = true) :
    m'.isConnected u = true ∨ d.IsFor .disconnectTx u ∧ status = .success := by
  cases h with
  | @judged x u' s s' status hfor hsink hjudged =>
    by_cases hu : u' = u
    · subst hu
      rw [Model.isConnected_modifySink_self hsink]
      rw [Model.isConnected, hsink] at hconnected
      cases hjudged with
      | refused hrefused => exact .inl hconnected
      | connected hagreed hfree => exact absurd (hfree.symm.trans hconnected) Bool.false_ne_true
      | exclusive hagreed hconnected' => exact .inl hconnected
      | disconnected hagreed hbound => exact .inr ⟨hfor, rfl⟩
      | misbehaving hagreed hunbound => exact .inl hconnected
    · left
      rwa [Model.isConnected_modifySink_of_ne hu]

end Verdict

end Delivery

/-! ## What is in flight -/

/-- The PDU names a stream input that the entity has in the configuration in use. -/
structure Pdu.NamesSink (p : Pdu) (m : Model) : Prop where
  listenerEntityId : p.listenerEntityId = m.entityId
  isSome : (m.sink? m.current p.listenerUniqueId).isSome

theorem Pdu.NamesSink.congr {p : Pdu} {m m' : Model} (h : p.NamesSink m)
    (hshape : m'.shape = m.shape) : p.NamesSink m' := by
  have hentity : m'.entity = m.entity := by
    rw [← Model.entity_shape, hshape, Model.entity_shape]
  have hcurrent : m'.current = m.current := by
    rw [Model.current, hentity, Model.current]
  constructor
  case listenerEntityId => rw [h.listenerEntityId, Model.entityId, Model.entityId, hentity]
  case isSome =>
    rw [hcurrent, ← Model.isSome_sink?_shape, hshape, Model.isSome_sink?_shape]
    exact h.isSome

namespace Relay

/-- The commands in flight are for stream inputs that the entity has. -/
def Serves (r : Relay) (m : Model) : Prop :=
  ∀ e ∈ r.inFlight.entries, e.command.NamesSink m

theorem serves_start (capacity : Nat) (m : Model) : (start capacity).Serves m := by
  intro e he
  rw [start, InFlight.entries_empty] at he
  exact absurd he List.not_mem_nil

namespace Serves

variable {r : Relay} {m : Model} (h : r.Serves m)
include h

theorem congr {m' : Model} (hshape : m'.shape = m.shape) : r.Serves m' :=
  fun e he => (h e he).congr hshape

/-- A PDU that names the entity puts nothing else in flight. -/
theorem handle {p : Pdu} (hnamed : p.listenerEntityId = m.entityId) (now : Time)
    (accepted : Bool) : (r.handle m p now accepted).1.Serves m := by
  intro e he
  rcases mem_entries_handle he with he | ⟨x, hx, rfl, hsome⟩
  · exact h e he
  · exact ⟨hnamed, hsome⟩

theorem tick (now : Time) : (r.tick now).1.Serves m := by
  intro e he
  obtain ⟨e₀, he₀, hcommand⟩ := mem_entries_tick he
  rw [hcommand]
  exact h e₀ he₀

end Serves

end Relay

namespace Manager

variable {c : Manager} {m : Model} (h : c.relay.Serves m)
include h

theorem serves_handle (p : Pdu) (now : Time) (accepted : Bool) :
    (c.handle m p now accepted).1.relay.Serves m := by
  have hend := handled c m p now accepted
  generalize c.handle m p now accepted = result at hend ⊢
  cases hend with
  | talker htype hrole hnamed => exact h
  | listener htype hrole hnamed => exact h.handle hnamed now accepted
  | ignored htype => exact h

theorem serves_tick (now : Time) : (c.tick now).1.relay.Serves m := by
  unfold tick
  split
  · exact h.tick now
  · exact h

end Manager

/-! ## One answer -/

/-- A listener whose commands in flight have different sequence numbers, and the answers to all of
them in the order in which they come. -/
structure Awaits (s : Manager × Model) (ds : List Delivery) : Prop where
  role : s.1.role.isListener
  holds : s.1.relay.HoldsCommands
  serves : s.1.relay.Serves s.2
  apart : s.1.relay.inFlight.NumberedApart
  /-- Every command in flight is answered once. -/
  perm : (ds.map (·.entry)).Perm s.1.relay.inFlight.entries

/-- What comes of an answer: its controller hears the status, and nothing else is sent. -/
structure Delivery.Concludes (d : Delivery) (s : Manager × Model) (status : Status) : Prop where
  /-- The answer is for a command of the relay, so the reply is for a command of a controller. -/
  relayed : ∃ x : Exchange, x.IsRelayed ∧ d.entry.command.messageType = .command x
  tells : d.Tells s status
  /-- The slot of the command is freed, and no other one changes. -/
  frees : ∃ slot, s.1.relay.inFlight.get? slot = some d.entry ∧
    (d.next s).1 =
      { s.1 with relay := { s.1.relay with inFlight := s.1.relay.inFlight.remove slot } }
  verdict : d.Verdict s.2 status (d.next s).2

namespace Awaits

variable {s : Manager × Model} {d : Delivery} {ds : List Delivery}

/-- Every answer finds its command. -/
theorem concludes (h : Awaits s (d :: ds)) : ∃ status, d.Concludes s status := by
  have hmem : d.entry ∈ s.1.relay.inFlight.entries := h.perm.mem_iff.mp List.mem_cons_self
  obtain ⟨x, hx, htype⟩ := h.holds d.entry hmem
  have hnames := h.serves d.entry hmem
  obtain ⟨slot, hget, htake⟩ := h.apart.take?_eq hmem
  obtain ⟨sink, hsink⟩ := Option.isSome_iff_exists.mp hnames.isSome
  have hresult := Manager.handle_response (p := d.pdu) d.now d.accepted h.role hx
    (Pdu.messageType_respond htype d.answer.status) hnames.listenerEntityId
  have hend := Relay.settled s.1.relay s.2 d.pdu x
  generalize s.1.relay.settle s.2 d.pdu x = result at hend hresult
  rw [htype] at htake
  cases hend with
  | unknown hsink' => exact absurd (hsink.symm.trans hsink') (Option.some_ne_none _)
  | unsolicited hsink' htake' => exact absurd (htake.symm.trans htake') (Option.some_ne_none _)
  | @answered s' e t hsink' htake' =>
    obtain ⟨rfl, rfl⟩ := Prod.mk.inj (Option.some.inj (htake.symm.trans htake'))
    refine ⟨(Relay.conclude s' d.pdu x).2, ?_⟩
    constructor
    case relayed => exact ⟨x, hx, htype⟩
    case tells =>
      rw [Delivery.Tells, Delivery.result, hresult, Delivery.reply, htype]
      rfl
    case frees =>
      refine ⟨slot, hget, ?_⟩
      rw [Delivery.next, Delivery.result, hresult]
    case verdict =>
      rw [Delivery.next, Delivery.result, hresult]
      exact .judged ⟨htype, rfl⟩ hsink' (Relay.judged s' d.pdu hx)

/-- After an answer the listener awaits the others. -/
theorem next (h : Awaits s (d :: ds)) : Awaits (d.next s) ds := by
  obtain ⟨status, hconcludes⟩ := h.concludes
  obtain ⟨slot, hget, hmanager⟩ := hconcludes.frees
  have hentries := InFlight.entries_remove_perm hget
  have hsub : ∀ e ∈ (s.1.relay.inFlight.remove slot).entries, e ∈ s.1.relay.inFlight.entries :=
    fun e he => hentries.mem_iff.mpr (List.mem_cons_of_mem _ he)
  constructor <;> rw [hmanager]
  case role => exact h.role
  case holds => exact fun e he => h.holds e (hsub e he)
  case serves =>
    exact fun e he => (h.serves e (hsub e he)).congr hconcludes.verdict.shape_eq
  case apart => exact h.apart.remove hget
  case perm => exact (h.perm.trans hentries).cons_inv

/-- The same after several answers. -/
theorem after {before : List Delivery} (h : Awaits s (before ++ ds)) :
    Awaits (Delivery.after s before) ds := by
  induction before generalizing s with
  | nil => exact h
  | cons d before ih => exact ih h.next

/-- Nothing is in flight when no more answers are awaited. -/
theorem isEmpty (h : Awaits s []) : s.1.relay.inFlight.isEmpty :=
  InFlight.entries_eq_nil.mp h.perm.nil_eq.symm

/-- A stream input that is connected stays so until a controller hears of its disconnection. -/
theorem isConnected_after {between since : List Delivery} {u : UInt16}
    (h : Awaits s (between ++ since)) (hconnected : s.2.isConnected u = true) :
    (Delivery.after s between).2.isConnected u = true ∨
      ∃ xs d ys, between = xs ++ d :: ys ∧ d.IsFor .disconnectTx u ∧
        d.Tells (Delivery.after s xs) .success := by
  -- by the first answer: it keeps the connection for those that follow, or is the one that ends it
  induction between generalizing s with
  | nil => exact .inl hconnected
  | cons d between ih =>
    obtain ⟨status, hconcludes⟩ := h.concludes
    rcases hconcludes.verdict.keeps hconnected with hkept | ⟨hfor, rfl⟩
    · refine (ih h.next hkept).imp_right ?_
      rintro ⟨xs, d', ys, rfl, hfor, htells⟩
      exact ⟨d :: xs, d', ys, rfl, hfor, htells⟩
    · exact .inr ⟨[], d, between, rfl, hfor, hconcludes.tells⟩

end Awaits

/-! ## All answers -/

/-- What comes of the answers to all commands in flight, in the order in which they come. -/
structure Delivery.Settles (s : Manager × Model) (ds : List Delivery) : Prop where
  /-- Every answer has one reply, of the controller's exchange and under its number, and frees the
  slot of its command and no other one. -/
  concludes : ∀ before d since, ds = before ++ d :: since →
    ∃ status, d.Concludes (after s before) status
  /-- A refusal is passed on as it is, and no stream changes. -/
  refused : ∀ before d since status, ds = before ++ d :: since →
    d.Tells (after s before) status → d.answer.status ≠ .success →
      status = d.answer.status ∧ (after s (before ++ [d])).2 = (after s before).2
  /-- A talker's agreement to a connection is passed on, or the stream input is taken. -/
  connects : ∀ before d since status u, ds = before ++ d :: since →
    d.Tells (after s before) status → d.answer.status = .success → d.IsFor .connectTx u →
      status = .success ∨ status = .listenerExclusive
  /-- Between two connections of a stream input that controllers heard of, one heard of its
  disconnection. -/
  separates : ∀ before d between d' since u, ds = before ++ d :: (between ++ d' :: since) →
    d.IsFor .connectTx u → d.Tells (after s before) .success →
    d'.IsFor .connectTx u → d'.Tells (after s (before ++ d :: between)) .success →
      ∃ xs e ys, between = xs ++ e :: ys ∧ e.IsFor .disconnectTx u ∧
        e.Tells (after s (before ++ d :: xs)) .success
  /-- Nothing is in flight after the last one. -/
  empty : (after s ds).1.relay.inFlight.isEmpty

namespace Awaits

variable {s : Manager × Model} {ds : List Delivery}

/-- The answers in the order in which they come. -/
theorem settles (h : Awaits s ds) : Delivery.Settles s ds := by
  constructor
  case concludes =>
    rintro before d since rfl
    exact h.after.concludes
  case refused =>
    rintro before d since status rfl htells hanswer
    obtain ⟨status', hconcludes⟩ := h.after.concludes
    obtain rfl := htells.status_eq hconcludes.tells
    rw [Delivery.after_append]
    exact hconcludes.verdict.of_refused hanswer
  case connects =>
    rintro before d since status u rfl htells hanswer hfor
    obtain ⟨status', hconcludes⟩ := h.after.concludes
    obtain rfl := htells.status_eq hconcludes.tells
    exact hconcludes.verdict.of_connect hanswer hfor
  case separates =>
    rintro before d between d' since u rfl hfor htells hfor' htells'
    have hawaits := h.after
    obtain ⟨status, hconcludes⟩ := hawaits.concludes
    obtain rfl := htells.status_eq hconcludes.tells
    have hconnected := (hconcludes.verdict.connects rfl hfor).2
    rcases hawaits.next.isConnected_after hconnected with hstill | ⟨xs, e, ys, hsplit, he, htold⟩
    · rw [Delivery.after_append_cons] at htells'
      obtain ⟨status', hconcludes'⟩ := hawaits.next.after.concludes
      obtain rfl := htells'.status_eq hconcludes'.tells
      rw [(hconcludes'.verdict.connects rfl hfor').1] at hstill
      exact absurd hstill Bool.false_ne_true
    · rw [← Delivery.after_append_cons] at htold
      exact ⟨xs, e, ys, hsplit, he, htold⟩
  case empty =>
    have hrest : Awaits s (ds ++ []) := by rwa [List.append_nil]
    exact hrest.after.isEmpty

end Awaits

end Connection

end AvbEntity

import AvbEntity.Connection.Relay
import AvbEntity.Proofs.Connection.InFlight
import AvbEntity.Proofs.Model.Streams

/-!
# What the relay can do

Each operation of the relay ends in one of a few ways, and says in each of them what it found, what
it leaves and what it sends. Later proofs go by these cases.

## Main definitions

* `Exchange.IsRelayed`: the exchanges that the relay has with a talker
* `Sink.recorded`: a stream input as an answer connects it
* `MessageType.isRequest`, `MessageType.isReply`: what controllers ask for, and are answered
* `Relay.Requested`: how a controller's command can end
* `Relay.Settled`: how a talker's answer can end
* `Relay.Judged`: what is made of a talker's answer
* `Relay.Handled`: which of the operations a PDU leads to
* `Relay.HoldsCommands`: only commands to a talker are in flight

## Main results

* `Relay.requested`, `Relay.settled`, `Relay.judged`, `Relay.handled`: the operations end in these
  ways
* `Relay.entries_tick`, `Relay.sent_tick`: a tick acts on every command in flight by itself
* `Relay.mem_entries_handle`, `Relay.mem_entries_tick`: what comes to be in flight
* `Relay.HoldsCommands.handle`, `Relay.HoldsCommands.tick`: nothing but commands to a talker
-/

namespace AvbEntity

/-- A stream input as an answer of the talker connects it. -/
def Sink.recorded (uniqueId : UInt16) (p : Connection.Pdu) : Sink where
  listenerUniqueId := uniqueId
  connected := true
  talkerEntityId := p.talkerEntityId
  talkerUniqueId := p.talkerUniqueId
  streamId := p.streamId
  streamDestMac := p.streamDestMac
  controllerEntityId := p.controllerEntityId
  flags := p.flags
  streamVlanId := p.streamVlanId

namespace Connection

/-- The exchanges that the relay has with a talker. -/
def Exchange.IsRelayed (x : Exchange) : Prop :=
  x = .connectTx ∨ x = .disconnectTx

namespace MessageType

/-- The commands of controllers to connect or to disconnect a stream input. -/
def isRequest : MessageType → Bool
  | .command .connectRx | .command .disconnectRx => true
  | _ => false

/-- The answers to these commands. -/
def isReply : MessageType → Bool
  | .response .connectRx | .response .disconnectRx => true
  | _ => false

/-- A controller asks for an exchange of the relay. -/
theorem exists_of_isRequest {t : MessageType} (h : t.isRequest) :
    ∃ x : Exchange, x.IsRelayed ∧ t = .command x.ofController := by
  unfold isRequest at h
  split at h
  next => exact ⟨.connectTx, .inl rfl, rfl⟩
  next => exact ⟨.disconnectTx, .inr rfl, rfl⟩
  next => exact absurd h Bool.false_ne_true

theorem isForListener_of_isRequest {t : MessageType} (h : t.isRequest) : t.isForListener := by
  unfold isRequest at h
  split at h <;> simp_all [isForListener]

theorem isReply_ofController (x : Exchange) :
    (MessageType.response x.ofController).isReply = true := by
  cases x <;> rfl

/-- The talker's answers are not for controllers. -/
theorem isReply_toResponse {t : MessageType} (h : t.isForTalker) :
    t.toResponse.isReply = false := by
  unfold isForTalker at h
  split at h <;> simp_all [toResponse, exchange, isReply]

/-- The commands of the relay are for the talker. -/
theorem isForTalker_of_isRelayed {x : Exchange} (hx : x.IsRelayed) :
    (MessageType.command x).isForTalker := by
  rcases hx with rfl | rfl <;> rfl

end MessageType

theorem Pdu.messageType_respond {p : Pdu} {x : Exchange} (h : p.messageType = .command x)
    (status : Status) : (p.respond status).messageType = .response x := by
  rw [respond, h]
  rfl

namespace Relay

/-- The entry of a command that is passed on. -/
def entryFor (r : Relay) (p : Pdu) (x : Exchange) (now : Time) : Entry :=
  { command := r.outgoing p x, controllerSequenceId := p.sequenceId, deadline := now + x.timeout }

theorem forward_eq (r : Relay) (p : Pdu) (x : Exchange) (now : Time) (accepted : Bool) :
    r.forward p x now accepted =
      match r.inFlight.insert (r.entryFor p x now) with
      | none => (r, [p.respond .listenerMisbehaving])
      | some (t, _) =>
        if accepted then
          ({ inFlight := t, nextSequenceId := r.nextSequenceId + 1 }, [r.outgoing p x])
        else
          ({ r with nextSequenceId := r.nextSequenceId + 1 },
            [r.outgoing p x, p.respond .couldNotSendMessage]) := rfl

/-- How a controller's command can end. -/
inductive Requested (r : Relay) (m : Model) (p : Pdu) (x : Exchange) (now : Time) :
    Bool → Relay × List Pdu → Prop
  | unknown {accepted : Bool} (hsink : m.sink? m.current p.listenerUniqueId = none) :
    Requested r m p x now accepted (r, [p.respond .listenerUnknownId])
  | refused {accepted : Bool} {s : Sink} {status : Status}
    (hsink : m.sink? m.current p.listenerUniqueId = some s)
    (hrefusal : refusal s p x = some status) :
    Requested r m p x now accepted (r, [p.respond status])
  | full {accepted : Bool} {s : Sink} (hsink : m.sink? m.current p.listenerUniqueId = some s)
    (hrefusal : refusal s p x = none) (hfull : r.inFlight.isFull) :
    Requested r m p x now accepted (r, [p.respond .listenerMisbehaving])
  | unsent {s : Sink} {t : InFlight} {slot : Nat}
    (hsink : m.sink? m.current p.listenerUniqueId = some s) (hrefusal : refusal s p x = none)
    (hinsert : r.inFlight.insert (r.entryFor p x now) = some (t, slot)) :
    Requested r m p x now false
      ({ r with nextSequenceId := r.nextSequenceId + 1 },
        [r.outgoing p x, p.respond .couldNotSendMessage])
  | forwarded {s : Sink} {t : InFlight} {slot : Nat}
    (hsink : m.sink? m.current p.listenerUniqueId = some s) (hrefusal : refusal s p x = none)
    (hinsert : r.inFlight.insert (r.entryFor p x now) = some (t, slot)) :
    Requested r m p x now true
      ({ inFlight := t, nextSequenceId := r.nextSequenceId + 1 }, [r.outgoing p x])

theorem requested (r : Relay) (m : Model) (p : Pdu) (x : Exchange) (now : Time)
    (accepted : Bool) : Requested r m p x now accepted (r.request m p x now accepted) := by
  unfold request
  cases hsink : m.sink? m.current p.listenerUniqueId with
  | none => exact .unknown hsink
  | some s =>
    cases hrefusal : refusal s p x with
    | some status =>
      simp only [hrefusal]
      exact .refused hsink hrefusal
    | none =>
      simp only [hrefusal, forward_eq]
      cases hinsert : r.inFlight.insert (r.entryFor p x now) with
      | none => exact .full hsink hrefusal (InFlight.insert_eq_none.mp hinsert)
      | some stored =>
        cases accepted with
        | false => exact .unsent hsink hrefusal hinsert
        | true => exact .forwarded hsink hrefusal hinsert

/-- What is made of a talker's answer: the stream input, and the status for the controller. -/
inductive Judged (s : Sink) (p : Pdu) : Exchange → Sink × Status → Prop
  | refused {x : Exchange} (hrefused : p.status ≠ .success) : Judged s p x (s, p.status)
  | connected (hagreed : p.status = .success) (hfree : s.connected = false) :
    Judged s p .connectTx (.recorded s.listenerUniqueId p, .success)
  | exclusive (hagreed : p.status = .success) (hconnected : s.connected = true) :
    Judged s p .connectTx (s, .listenerExclusive)
  | disconnected (hagreed : p.status = .success)
    (hbound : s.isBoundTo p.talkerEntityId p.talkerUniqueId) :
    Judged s p .disconnectTx (.fresh s.listenerUniqueId, .success)
  | misbehaving (hagreed : p.status = .success)
    (hunbound : s.isBoundTo p.talkerEntityId p.talkerUniqueId = false) :
    Judged s p .disconnectTx (s, .listenerMisbehaving)

theorem judged (s : Sink) (p : Pdu) {x : Exchange} (hx : x.IsRelayed) :
    Judged s p x (conclude s p x) := by
  unfold conclude
  by_cases hagreed : p.status = .success
  · have hsuccess : ¬ (!p.status.isSuccess) = true := by
      rw [hagreed]
      decide
    rw [if_neg hsuccess]
    rcases hx with rfl | rfl
    · show Judged s p .connectTx (s.bind p)
      unfold Sink.bind
      split
      next hconnected => exact .exclusive hagreed hconnected
      next hfree => exact .connected hagreed (Bool.eq_false_iff.mpr hfree)
    · show Judged s p .disconnectTx (s.unbind p)
      unfold Sink.unbind
      split
      next hbound => exact .disconnected hagreed hbound
      next hunbound => exact .misbehaving hagreed (Bool.eq_false_iff.mpr hunbound)
  · have hfailure : p.status.isSuccess = false := beq_eq_false_iff_ne.mpr hagreed
    rw [hfailure]
    exact .refused hagreed

/-- The reply to the controller, made of the talker's answer to the command of an entry. -/
def reply (s : Sink) (p : Pdu) (x : Exchange) (e : Entry) : Pdu :=
  { p with
    messageType := .response x.ofController
    status := (conclude s p x).2
    sequenceId := e.controllerSequenceId }

/-- How a talker's answer can end. -/
inductive Settled (r : Relay) (m : Model) (p : Pdu) (x : Exchange) :
    Relay × Model × List Pdu → Prop
  | unknown (hsink : m.sink? m.current p.listenerUniqueId = none) : Settled r m p x (r, m, [])
  | unsolicited {s : Sink} (hsink : m.sink? m.current p.listenerUniqueId = some s)
    (htake : r.inFlight.take? (.command x) p.sequenceId = none) : Settled r m p x (r, m, [])
  | answered {s : Sink} {e : Entry} {t : InFlight}
    (hsink : m.sink? m.current p.listenerUniqueId = some s)
    (htake : r.inFlight.take? (.command x) p.sequenceId = some (e, t)) :
    Settled r m p x
      ({ r with inFlight := t },
        m.modifySink m.current p.listenerUniqueId fun _ => (conclude s p x).1, [reply s p x e])

theorem settled (r : Relay) (m : Model) (p : Pdu) (x : Exchange) :
    Settled r m p x (r.settle m p x) := by
  unfold settle
  cases hsink : m.sink? m.current p.listenerUniqueId with
  | none => exact .unknown hsink
  | some s =>
    cases htake : r.inFlight.take? (.command x) p.sequenceId with
    | none => exact .unsolicited hsink htake
    | some taken => exact .answered hsink htake

/-- Which of the operations a PDU leads to. -/
inductive Handled (r : Relay) (m : Model) (p : Pdu) (now : Time) (accepted : Bool) :
    Relay × Model × List Pdu → Prop
  | request {x : Exchange} (hx : x.IsRelayed) (htype : p.messageType = .command x.ofController) :
    Handled r m p now accepted
      ((r.request m p x now accepted).1, m, (r.request m p x now accepted).2)
  | settle {x : Exchange} (hx : x.IsRelayed) (htype : p.messageType = .response x) :
    Handled r m p now accepted (r.settle m p x)
  | describe (htype : p.messageType = .command .getRxState) :
    Handled r m p now accepted (r, m, [describe m p])
  | ignored (htype : p.messageType.isForListener = false) : Handled r m p now accepted (r, m, [])

theorem handled (r : Relay) (m : Model) (p : Pdu) (now : Time) (accepted : Bool) :
    Handled r m p now accepted (r.handle m p now accepted) := by
  unfold handle
  split
  next htype => exact .request (.inl rfl) htype
  next htype => exact .request (.inr rfl) htype
  next htype => exact .describe htype
  next htype => exact .settle (.inl rfl) htype
  next htype => exact .settle (.inr rfl) htype
  next h₁ h₂ h₃ h₄ h₅ =>
    refine .ignored ?_
    unfold MessageType.isForListener
    split <;> simp_all

section

variable (r : Relay) (m : Model) (p : Pdu) (x : Exchange)

@[simp] theorem entity_settle : (r.settle m p x).2.1.entity = m.entity := by
  have hend := settled r m p x
  generalize r.settle m p x = result at hend ⊢
  cases hend with
  | unknown hsink => rfl
  | unsolicited hsink htake => rfl
  | answered hsink htake => rw [Model.entity_modifySink]

/-- An answer changes no other stream input than the one that it names. -/
theorem sink?_settle {u : UInt16} (hu : p.listenerUniqueId ≠ u) :
    (r.settle m p x).2.1.sink? m.current u = m.sink? m.current u := by
  have hend := settled r m p x
  generalize r.settle m p x = result at hend ⊢
  cases hend with
  | unknown hsink => rfl
  | unsolicited hsink htake => rfl
  | answered hsink htake => rw [Model.sink?_modifySink, if_neg fun h => hu h.2]

/-- An answer removes no stream input. -/
theorem isSome_sink?_settle (u : UInt16) :
    ((r.settle m p x).2.1.sink? m.current u).isSome = (m.sink? m.current u).isSome := by
  have hend := settled r m p x
  generalize r.settle m p x = result at hend ⊢
  cases hend with
  | unknown hsink => rfl
  | unsolicited hsink htake => rfl
  | answered hsink htake =>
    rw [Model.sink?_modifySink]
    split
    · rw [Option.isSome_map]
    · rfl

/-- No PDU changes anything in the model but the stream input that it names. -/
theorem model_handle (now : Time) (accepted : Bool) :
    (r.handle m p now accepted).2.1 = m ∨
      ∃ f, (r.handle m p now accepted).2.1 = m.modifySink m.current p.listenerUniqueId f := by
  have hend := handled r m p now accepted
  generalize r.handle m p now accepted = result at hend ⊢
  cases hend with
  | request hx htype => exact .inl rfl
  | @settle x hx htype =>
    have hend := settled r m p x
    generalize r.settle m p x = result at hend ⊢
    cases hend with
    | unknown hsink => exact .inl rfl
    | unsolicited hsink htake => exact .inl rfl
    | answered hsink htake => exact .inr ⟨_, rfl⟩
  | describe htype => exact .inl rfl
  | ignored htype => exact .inl rfl

/-- No PDU changes a stream output. -/
@[simp] theorem source?_handle (now : Time) (accepted : Bool) (c v : UInt16) :
    (r.handle m p now accepted).2.1.source? c v = m.source? c v := by
  rcases model_handle r m p now accepted with h | ⟨f, h⟩
  · rw [h]
  · rw [h, Model.source?_modifySink]

/-- No PDU changes the entity. -/
@[simp] theorem entity_handle (now : Time) (accepted : Bool) :
    (r.handle m p now accepted).2.1.entity = m.entity := by
  rcases model_handle r m p now accepted with h | ⟨f, h⟩
  · rw [h]
  · rw [h, Model.entity_modifySink]

end

/-! ## Ticks -/

end Relay

section

variable {now : Time} {e : Entry}

/-- Before its deadline a command waits on. -/
theorem Entry.tick_of_lt (h : now < e.deadline) : e.tick now = (some e, none) := by
  rw [tick, if_pos h]

/-- After its deadline a command is sent again. -/
theorem Entry.tick_of_le (h : e.deadline ≤ now) (hretried : e.retried = false) :
    e.tick now = (some (e.retry (now + e.command.messageType.timeout)), some e.command) := by
  rw [tick, if_neg (Nat.not_lt.mpr h), hretried, if_neg Bool.false_ne_true]

/-- After its second deadline a command is given up. -/
theorem Entry.tick_of_retried (h : e.deadline ≤ now) (hretried : e.retried = true) :
    e.tick now = (none, some e.giveUp) := by
  rw [tick, if_neg (Nat.not_lt.mpr h), if_pos hretried]

end

/-- What a tick can do with a command in flight. -/
inductive Entry.Ticked (e : Entry) (now : Time) : Option Entry × Option Pdu → Prop
  | waits (h : now < e.deadline) : Ticked e now (some e, none)
  | resent (h : e.deadline ≤ now) (hretried : e.retried = false) :
    Ticked e now (some (e.retry (now + e.command.messageType.timeout)), some e.command)
  | givenUp (h : e.deadline ≤ now) (hretried : e.retried = true) :
    Ticked e now (none, some e.giveUp)

theorem Entry.ticked (e : Entry) (now : Time) : e.Ticked now (e.tick now) := by
  obtain hwait | hdue := Nat.lt_or_ge now e.deadline
  · rw [tick_of_lt hwait]
    exact .waits hwait
  · cases hretried : e.retried with
    | false =>
      rw [tick_of_le hdue hretried]
      exact .resent hdue hretried
    | true =>
      rw [tick_of_retried hdue hretried]
      exact .givenUp hdue hretried

namespace Relay

theorem filterMap_bind_slots {α : Type} (slots : List (Option Entry)) (f : Entry → Option α) :
    slots.filterMap (·.bind f) = (slots.filterMap id).filterMap f := by
  rw [List.filterMap_filterMap]
  rfl

/-- A tick acts on every command in flight by itself. -/
theorem entries_tick (r : Relay) (now : Time) :
    (r.tick now).1.inFlight.entries =
      r.inFlight.entries.filterMap fun e => (e.tick now).1 := by
  simp only [tick, InFlight.entries, List.filterMap_map]
  exact filterMap_bind_slots ..

/-- A tick sends what each command in flight makes it send, in the order of the slots. -/
theorem sent_tick (r : Relay) (now : Time) :
    (r.tick now).2 = r.inFlight.entries.filterMap fun e => (e.tick now).2 :=
  filterMap_bind_slots ..

theorem get?_tick (r : Relay) (now : Time) (slot : Nat) :
    (r.tick now).1.inFlight.get? slot = (r.inFlight.get? slot).bind fun e => (e.tick now).1 := by
  simp only [tick, InFlight.get?, List.getElem?_map]
  cases r.inFlight.slots[slot]? <;> simp

/-- What a tick leaves of a command in flight is the same command of the same controller. -/
theorem tick_keeps {e e' : Entry} {now : Time} (h : (e.tick now).1 = some e') :
    e'.command = e.command ∧ e'.controllerSequenceId = e.controllerSequenceId := by
  have hend := e.ticked now
  generalize e.tick now = result at hend h
  cases hend with
  | waits hwait => cases h; exact ⟨rfl, rfl⟩
  | resent hdue hretried => cases h; exact ⟨rfl, rfl⟩
  | givenUp hdue hretried => cases h

/-! ## What is in flight -/

section

variable {r : Relay} {m : Model} {p : Pdu} {now : Time} {accepted : Bool} {e : Entry}

/-- What is in flight after a controller's command was so before, or is this command, for a stream
input that there is. -/
theorem mem_entries_request {x : Exchange}
    (h : e ∈ (r.request m p x now accepted).1.inFlight.entries) :
    e ∈ r.inFlight.entries ∨
      e = r.entryFor p x now ∧ (m.sink? m.current p.listenerUniqueId).isSome := by
  have hend := requested r m p x now accepted
  generalize r.request m p x now accepted = result at hend h
  cases hend with
  | unknown hsink => exact .inl h
  | refused hsink hrefusal => exact .inl h
  | full hsink hrefusal hfull => exact .inl h
  | unsent hsink hrefusal hinsert => exact .inl h
  | forwarded hsink hrefusal hinsert =>
    rcases List.mem_cons.mp ((InFlight.entries_insert_perm hinsert).mem_iff.mp h) with rfl | h
    · exact .inr ⟨rfl, Option.isSome_iff_exists.mpr ⟨_, hsink⟩⟩
    · exact .inl h

/-- What is in flight after a talker's answer was so before. -/
theorem mem_entries_settle {x : Exchange} (h : e ∈ (r.settle m p x).1.inFlight.entries) :
    e ∈ r.inFlight.entries := by
  have hend := settled r m p x
  generalize r.settle m p x = result at hend h
  cases hend with
  | unknown hsink => exact h
  | unsolicited hsink htake => exact h
  | answered hsink htake =>
    apply (InFlight.entries_take?_perm htake).1.mem_iff.mpr
    exact List.mem_cons_of_mem _ h

/-- Nothing comes to be in flight but commands to talkers, for stream inputs that there are. -/
theorem mem_entries_handle (h : e ∈ (r.handle m p now accepted).1.inFlight.entries) :
    e ∈ r.inFlight.entries ∨ ∃ x : Exchange, x.IsRelayed ∧ e = r.entryFor p x now ∧
      (m.sink? m.current p.listenerUniqueId).isSome := by
  have hend := handled r m p now accepted
  generalize r.handle m p now accepted = result at hend h
  cases hend with
  | request hx htype => exact (mem_entries_request h).imp_right fun hnew => ⟨_, hx, hnew⟩
  | settle hx htype => exact .inl (mem_entries_settle h)
  | describe htype => exact .inl h
  | ignored htype => exact .inl h

/-- What is in flight after a tick was so before, as the same command. -/
theorem mem_entries_tick (h : e ∈ (r.tick now).1.inFlight.entries) :
    ∃ e₀ ∈ r.inFlight.entries, e.command = e₀.command := by
  rw [entries_tick, List.mem_filterMap] at h
  obtain ⟨e₀, he₀, htick⟩ := h
  exact ⟨e₀, he₀, (tick_keeps htick).1⟩

end

/-- Only commands to a talker are in flight. -/
def HoldsCommands (r : Relay) : Prop :=
  ∀ e ∈ r.inFlight.entries, ∃ x : Exchange, x.IsRelayed ∧ e.command.messageType = .command x

theorem holdsCommands_start (capacity : Nat) : (start capacity).HoldsCommands := by
  intro e he
  rw [start, InFlight.entries_empty] at he
  exact absurd he List.not_mem_nil

namespace HoldsCommands

variable {r : Relay} (h : r.HoldsCommands)
include h

theorem handle (m : Model) (p : Pdu) (now : Time) (accepted : Bool) :
    (r.handle m p now accepted).1.HoldsCommands := by
  intro e he
  rcases mem_entries_handle he with he | ⟨x, hx, rfl, -⟩
  · exact h e he
  · exact ⟨x, hx, rfl⟩

theorem tick (now : Time) : (r.tick now).1.HoldsCommands := by
  intro e he
  obtain ⟨e₀, he₀, hcommand⟩ := mem_entries_tick he
  rw [hcommand]
  exact h e₀ he₀

end HoldsCommands

end Relay

end Connection

end AvbEntity

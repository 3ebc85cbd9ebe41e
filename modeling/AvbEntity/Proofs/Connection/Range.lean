import AvbEntity.Proofs.Connection.Manager

/-!
# What is answered about streams that are not there

A command on a stream that the configuration in use does not have is answered at once: the talker
says that it does not know the stream output, and the listener that it does not know the stream
input. Nothing else is answered in this way.

## Main definitions

* `MessageType.isOnSink`: the commands of controllers on a stream input
* `Talker.Ranged`, `Relay.Ranged`: the answers to a command, by whether its stream is there

## Main results

* `Talker.ranged`, `Relay.ranged`: these are the answers
-/

namespace AvbEntity.Connection

/-- The commands of controllers on a stream input. -/
def MessageType.isOnSink : MessageType → Bool
  | .command .connectRx | .command .disconnectRx | .command .getRxState => true
  | _ => false

theorem MessageType.isForListener_of_isOnSink {t : MessageType} (h : t.isOnSink) :
    t.isForListener := by
  unfold isOnSink at h
  split at h
  next => rfl
  next => rfl
  next => rfl
  next => exact absurd h Bool.false_ne_true

namespace Talker

variable {m : Model} {p : Pdu}

/-- The statuses under which the talker answers about a stream output that it knows. -/
def statuses : List Status :=
  [.success, .talkerMisbehaving, .noSuchConnection]

theorem bounds_of_mem_statuses :
    ∀ status ∈ statuses, status.code.toNat < 32 ∧ status ≠ .talkerUnknownId := by
  decide

theorem status_of_act {s s' : Source} {answer : Pdu} (h : act s p = some (s', answer)) :
    answer.status ∈ statuses := by
  unfold act at h
  split at h
  next =>
    obtain ⟨-, rfl⟩ := Prod.mk.inj (Option.some.inj h)
    split
    · exact List.mem_cons_self
    · exact List.mem_cons_of_mem _ List.mem_cons_self
  next =>
    obtain ⟨-, rfl⟩ := Prod.mk.inj (Option.some.inj h)
    exact List.mem_cons_self
  next =>
    obtain ⟨-, rfl⟩ := Prod.mk.inj (Option.some.inj h)
    exact List.mem_cons_self
  next =>
    obtain ⟨-, rfl⟩ := Prod.mk.inj (Option.some.inj h)
    unfold connection
    split
    · exact List.mem_cons_self
    · exact List.mem_cons_of_mem _ (List.mem_cons_of_mem _ List.mem_cons_self)
  next => exact absurd h (Option.some_ne_none _).symm

/-- The answer to a command, by whether its stream output is there. -/
inductive Ranged (m : Model) (p : Pdu) : List Pdu → Prop
  | unknown (hsource : m.source? m.current p.talkerUniqueId = none) :
    Ranged m p [p.respond .talkerUnknownId]
  | known {answer : Pdu} (hsource : (m.source? m.current p.talkerUniqueId).isSome)
    (htype : answer.messageType = p.messageType.toResponse) (hstatus : answer.status ∈ statuses) :
    Ranged m p [answer]

theorem ranged (m : Model) (h : p.messageType.isForTalker) : Ranged m p (respond m p).2 := by
  have hend := responded m h
  generalize respond m p = result at hend ⊢
  cases hend with
  | unknown hsource => exact .unknown hsource
  | answered hsource hact =>
    exact .known (Option.isSome_of_eq_some hsource) (messageType_of_act hact) (status_of_act hact)

end Talker

namespace Relay

variable {p : Pdu}

/-- The statuses of what the relay sends when it knows the stream input of a command. -/
def statuses : List Status :=
  [.success, .notConnected, .listenerExclusive, .listenerMisbehaving, .couldNotSendMessage]

theorem bounds_of_mem_statuses :
    ∀ status ∈ statuses, status.code.toNat < 32 ∧ status ≠ .listenerUnknownId := by
  decide

theorem status_of_refusal {s : Sink} {x : Exchange} {status : Status}
    (h : refusal s p x = some status) : status ∈ statuses := by
  unfold refusal at h
  split at h
  · obtain ⟨-, hstatus⟩ := Option.ite_none_left_eq_some.mp h
    rw [← Option.some.inj hstatus]
    decide
  · obtain ⟨-, hstatus⟩ := Option.ite_none_right_eq_some.mp h
    rw [← Option.some.inj hstatus]
    decide

/-- What is sent in turn of a command, by whether its stream input is there. -/
inductive Ranged (m : Model) (p : Pdu) : List Pdu → Prop
  | unknown (hsink : m.sink? m.current p.listenerUniqueId = none) :
    Ranged m p [p.respond .listenerUnknownId]
  | known {sent : List Pdu} (hsink : (m.sink? m.current p.listenerUniqueId).isSome)
    (hstatus : ∀ q ∈ sent, q.status ∈ statuses) : Ranged m p sent

theorem Ranged.singleton {m : Model} {q : Pdu} {s : Sink}
    (hsink : m.sink? m.current p.listenerUniqueId = some s) (hstatus : q.status ∈ statuses) :
    Ranged m p [q] :=
  .known (Option.isSome_of_eq_some hsink) (List.forall_mem_singleton.mpr hstatus)

theorem ranged_request (r : Relay) (m : Model) (x : Exchange) (now : Time) (accepted : Bool) :
    Ranged m p (r.request m p x now accepted).2 := by
  have hmisbehaving : Status.listenerMisbehaving ∈ statuses := by decide
  have hunsent : Status.couldNotSendMessage ∈ statuses := by decide
  have hend := requested r m p x now accepted
  generalize r.request m p x now accepted = result at hend ⊢
  cases hend with
  | unknown hsink => exact .unknown hsink
  | refused hsink hrefusal => exact .singleton hsink (status_of_refusal hrefusal)
  | full hsink hrefusal hfull => exact .singleton hsink hmisbehaving
  | unsent hsink hrefusal hinsert =>
    apply Ranged.known (Option.isSome_of_eq_some hsink)
    rw [List.forall_mem_cons, List.forall_mem_singleton]
    exact ⟨List.mem_cons_self, hunsent⟩
  | forwarded hsink hrefusal hinsert => exact .singleton hsink List.mem_cons_self

theorem ranged_describe (m : Model) (p : Pdu) : Ranged m p [describe m p] := by
  unfold describe
  cases hsink : m.sink? m.current p.listenerUniqueId with
  | none => exact .unknown hsink
  | some s => exact .singleton hsink List.mem_cons_self

theorem ranged (r : Relay) (m : Model) (h : p.messageType.isOnSink) (now : Time)
    (accepted : Bool) : Ranged m p (r.handle m p now accepted).2.2 := by
  have hend := handled r m p now accepted
  generalize r.handle m p now accepted = result at hend ⊢
  cases hend with
  | request hx htype => exact ranged_request r m _ now accepted
  | settle hx htype =>
    rw [htype] at h
    exact absurd h Bool.false_ne_true
  | describe htype => exact ranged_describe m p
  | ignored htype =>
    rw [MessageType.isForListener_of_isOnSink h] at htype
    exact absurd htype.symm Bool.false_ne_true

end Relay

end AvbEntity.Connection

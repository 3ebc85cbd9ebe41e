import AvbEntity.Connection.Manager
import AvbEntity.Proofs.Connection.Relay

/-!
# What connection management can do

A PDU is handled by the talker, by the relay of the listener, or by neither.

## Main definitions

* `Talker.Responded`: how a command to the talker can end
* `Manager.Handled`: who handles a PDU

## Main results

* `Talker.responded`, `Manager.handled`: these are the only ways
* `Talker.messageType_of_act`: the talker answers with the response of the same exchange
-/

namespace AvbEntity.Connection

namespace Talker

theorem messageType_of_act {s s' : Source} {p answer : Pdu} (h : act s p = some (s', answer)) :
    answer.messageType = p.messageType.toResponse := by
  unfold act at h
  split at h
  next =>
    obtain ⟨-, rfl⟩ := Prod.mk.inj (Option.some.inj h)
    split <;> rfl
  next =>
    obtain ⟨-, rfl⟩ := Prod.mk.inj (Option.some.inj h)
    rfl
  next =>
    obtain ⟨-, rfl⟩ := Prod.mk.inj (Option.some.inj h)
    rfl
  next =>
    obtain ⟨-, rfl⟩ := Prod.mk.inj (Option.some.inj h)
    unfold connection
    split <;> rfl
  next => exact absurd h (Option.some_ne_none _).symm

/-- How a command to the talker can end. -/
inductive Responded (m : Model) (p : Pdu) : Model × List Pdu → Prop
  | unknown (hsource : m.source? m.current p.talkerUniqueId = none) :
    Responded m p (m, [p.respond .talkerUnknownId])
  | answered {s s' : Source} {answer : Pdu}
    (hsource : m.source? m.current p.talkerUniqueId = some s)
    (hact : act s p = some (s', answer)) :
    Responded m p (m.modifySource m.current p.talkerUniqueId fun _ => s', [answer])

theorem responded (m : Model) {p : Pdu} (h : p.messageType.isForTalker) :
    Responded m p (respond m p) := by
  unfold respond
  cases hsource : m.source? m.current p.talkerUniqueId with
  | none =>
    simp only [h, if_true]
    exact .unknown hsource
  | some s =>
    cases hact : act s p with
    | none =>
      unfold MessageType.isForTalker at h
      unfold act at hact
      split at h <;> simp_all
    | some result =>
      simp only [hact]
      exact .answered hsource hact

/-- The talker changes neither the entity nor a stream input. -/
theorem respond_frame (m : Model) {p : Pdu} (h : p.messageType.isForTalker) :
    (respond m p).1.entity = m.entity ∧
      ∀ c u, (respond m p).1.sink? c u = m.sink? c u := by
  have hend := responded m h
  generalize respond m p = result at hend ⊢
  cases hend with
  | unknown hsource => exact ⟨rfl, fun c u => rfl⟩
  | answered hsource hact =>
    exact ⟨Model.entity_modifySource .., fun c u => Model.sink?_modifySource ..⟩

end Talker

namespace Manager

/-- Who handles a PDU. -/
inductive Handled (c : Manager) (m : Model) (p : Pdu) (now : Time) (accepted : Bool) :
    Manager × Model × List Pdu → Prop
  | talker (htype : p.messageType.isForTalker) (hrole : c.role.isTalker)
    (hnamed : p.talkerEntityId = m.entityId) :
    Handled c m p now accepted (c, Talker.respond m p)
  | listener (htype : p.messageType.isForListener) (hrole : c.role.isListener)
    (hnamed : p.listenerEntityId = m.entityId) :
    Handled c m p now accepted
      ({ c with relay := (c.relay.handle m p now accepted).1 },
        (c.relay.handle m p now accepted).2)
  | ignored (htype : p.messageType.isForListener → c.role.isListener →
      p.listenerEntityId ≠ m.entityId) :
    Handled c m p now accepted (c, m, [])

theorem isForListener_eq_false {t : MessageType} (h : t.isForTalker) : t.isForListener = false := by
  unfold MessageType.isForTalker at h
  split at h <;> simp_all [MessageType.isForListener]

theorem handled (c : Manager) (m : Model) (p : Pdu) (now : Time) (accepted : Bool) :
    Handled c m p now accepted (c.handle m p now accepted) := by
  unfold handle
  split
  next htalker =>
    split
    next h =>
      rw [Bool.and_eq_true, beq_iff_eq] at h
      exact .talker htalker h.1 h.2
    next =>
      refine .ignored fun hlistener => ?_
      rw [isForListener_eq_false htalker] at hlistener
      exact absurd hlistener Bool.false_ne_true
  next =>
    split
    next hlistener =>
      split
      next h =>
        rw [Bool.and_eq_true, beq_iff_eq] at h
        exact .listener hlistener h.1 h.2
      next h =>
        rw [Bool.and_eq_true, beq_iff_eq] at h
        exact .ignored fun _ hrole hnamed => h ⟨hrole, hnamed⟩
    next hlistener => exact .ignored fun h => absurd h hlistener

/-! ## Who handles what -/

section

variable {c : Manager} {m : Model} {p : Pdu} {x : Exchange} (now : Time) (accepted : Bool)

/-- Nobody acts on the answer to a controller. -/
theorem handle_reply (htype : p.messageType.isReply) :
    c.handle m p now accepted = (c, m, []) := by
  unfold MessageType.isReply at htype
  split at htype <;> simp_all [handle, MessageType.isForTalker, MessageType.isForListener]

/-- The talker answers every command that names the entity as the talker. -/
theorem handle_of_isForTalker (hrole : c.role.isTalker) (htype : p.messageType.isForTalker)
    (hnamed : p.talkerEntityId = m.entityId) :
    c.handle m p now accepted = (c, Talker.respond m p) := by
  rw [handle, if_pos htype, hrole, hnamed, beq_self_eq_true, Bool.and_self, if_pos rfl]

/-- The talker answers the command of a listener. -/
theorem handle_command (hrole : c.role.isTalker) (hx : x.IsRelayed)
    (htype : p.messageType = .command x) (hnamed : p.talkerEntityId = m.entityId) :
    c.handle m p now accepted = (c, Talker.respond m p) :=
  handle_of_isForTalker now accepted hrole (htype ▸ MessageType.isForTalker_of_isRelayed hx) hnamed

/-- The listener acts on every PDU for it that names the entity as the listener. -/
theorem handle_of_isForListener (hrole : c.role.isListener) (htype : p.messageType.isForListener)
    (hnamed : p.listenerEntityId = m.entityId) :
    c.handle m p now accepted =
      ({ c with relay := (c.relay.handle m p now accepted).1 },
        (c.relay.handle m p now accepted).2) := by
  have htalker : ¬ p.messageType.isForTalker := by
    intro htalker
    rw [isForListener_eq_false htalker] at htype
    exact Bool.false_ne_true htype
  rw [handle, if_neg htalker, if_pos htype, hrole, hnamed, beq_self_eq_true, Bool.and_self,
    if_pos rfl]

/-- The listener settles the answer of a talker. -/
theorem handle_response (hrole : c.role.isListener) (hx : x.IsRelayed)
    (htype : p.messageType = .response x) (hnamed : p.listenerEntityId = m.entityId) :
    c.handle m p now accepted =
      ({ c with relay := (c.relay.settle m p x).1 }, (c.relay.settle m p x).2) := by
  have hlistener : p.messageType.isForListener := by
    rcases hx with rfl | rfl <;> rw [htype] <;> rfl
  rw [handle_of_isForListener now accepted hrole hlistener hnamed]
  rcases hx with rfl | rfl <;> rw [Relay.handle, htype]

/-- The listener passes on, or refuses, the command of a controller. -/
theorem handle_request (hrole : c.role.isListener) (hx : x.IsRelayed)
    (htype : p.messageType = .command x.ofController) (hnamed : p.listenerEntityId = m.entityId) :
    c.handle m p now accepted =
      ({ c with relay := (c.relay.request m p x now accepted).1 }, m,
        (c.relay.request m p x now accepted).2) := by
  have hlistener : p.messageType.isForListener := by
    rcases hx with rfl | rfl <;> rw [htype] <;> rfl
  rw [handle_of_isForListener now accepted hrole hlistener hnamed]
  rcases hx with rfl | rfl <;> rw [Relay.handle, htype] <;> rfl

end

/-! ## What no PDU and no tick changes -/

variable (c : Manager) (m : Model) (p : Pdu) (now : Time) (accepted : Bool)

@[simp] theorem role_handle : (c.handle m p now accepted).1.role = c.role := by
  have hend := handled c m p now accepted
  generalize c.handle m p now accepted = result at hend ⊢
  cases hend <;> rfl

@[simp] theorem role_tick : (c.tick now).1.role = c.role := by
  unfold tick
  split <;> rfl

@[simp] theorem entity_handle : (c.handle m p now accepted).2.1.entity = m.entity := by
  have hend := handled c m p now accepted
  generalize c.handle m p now accepted = result at hend ⊢
  cases hend with
  | talker htype hrole hnamed => exact (Talker.respond_frame m htype).1
  | listener htype hrole hnamed => exact Relay.entity_handle ..
  | ignored htype => rfl

variable {c}

theorem holdsCommands_handle (h : c.relay.HoldsCommands) :
    (c.handle m p now accepted).1.relay.HoldsCommands := by
  have hend := handled c m p now accepted
  generalize c.handle m p now accepted = result at hend ⊢
  cases hend with
  | talker htype hrole hnamed => exact h
  | listener htype hrole hnamed => exact h.handle m p now accepted
  | ignored htype => exact h

theorem holdsCommands_tick (h : c.relay.HoldsCommands) :
    (c.tick now).1.relay.HoldsCommands := by
  unfold tick
  split
  · exact h.tick now
  · exact h

end Manager

end AvbEntity.Connection

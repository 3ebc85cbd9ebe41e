import AvbEntity.Proofs.Connection.Codec
import AvbEntity.Proofs.Connection.Manager
import AvbEntity.Proofs.Model.Frame

/-!
# The two sides of connection management

The talker only answers, and changes stream outputs; the listener sends commands to talkers and
answers to controllers, and changes stream inputs. What an entity does on a side that it does not
serve is nothing.

## Main definitions

* `Exchange.isOfTalker`: the exchanges that are asked of a talker
* `MessageType.isSentByTalker`, `MessageType.isSentByListener`: what each side sends
* `Manager.Sides`: what a change of connection management keeps, by the role

## Main results

* `Talker.keeps_respond`, `Relay.keeps_handle`: each side keeps the number of a stream
* `Manager.sides_handle`, `Manager.sides_tick`: a PDU and a tick
-/

namespace AvbEntity.Connection

/-- The exchanges that are asked of a talker. -/
def Exchange.isOfTalker : Exchange → Bool
  | .connectTx | .disconnectTx | .getTxState | .getTxConnection => true
  | .connectRx | .disconnectRx | .getRxState => false

namespace MessageType

/-- A talker sends the answers to what it is asked. -/
def isSentByTalker : MessageType → Bool
  | .command _ => false
  | .response x => x.isOfTalker

/-- A listener sends the commands that it passes on, and the answers to what it is asked. -/
def isSentByListener : MessageType → Bool
  | .command x => x == .connectTx || x == .disconnectTx
  | .response x => !x.isOfTalker

theorem isSentByTalker_toResponse {t : MessageType} (h : t.isForTalker) :
    t.toResponse.isSentByTalker := by
  unfold isForTalker at h
  split at h
  next => rfl
  next => rfl
  next => rfl
  next => rfl
  next => exact absurd h Bool.false_ne_true

theorem isSentByListener_of_isRelayed {x : Exchange} (hx : x.IsRelayed) :
    (command x).isSentByListener := by
  rcases hx with rfl | rfl <;> rfl

theorem isSentByListener_ofController (x : Exchange) :
    (response x.ofController).isSentByListener := by
  cases x <;> rfl

end MessageType

/-! ## The talker -/

namespace Talker

variable {m : Model} {p : Pdu}

/-- A command leaves the number of the stream output. -/
theorem talkerUniqueId_of_act {s s' : Source} {answer : Pdu} (h : act s p = some (s', answer)) :
    s'.talkerUniqueId = s.talkerUniqueId := by
  unfold act at h
  split at h
  next =>
    obtain ⟨rfl, -⟩ := Prod.mk.inj (Option.some.inj h)
    split
    next s' hconnect =>
      obtain ⟨-, hs'⟩ := Option.ite_none_right_eq_some.mp hconnect
      rw [← Option.some.inj hs']
    next => rfl
  next =>
    obtain ⟨rfl, -⟩ := Prod.mk.inj (Option.some.inj h)
    unfold Source.disconnect
    split <;> rfl
  next =>
    obtain ⟨rfl, -⟩ := Prod.mk.inj (Option.some.inj h)
    rfl
  next =>
    obtain ⟨rfl, -⟩ := Prod.mk.inj (Option.some.inj h)
    rfl
  next => exact absurd h (Option.some_ne_none _).symm

theorem keeps_respond (m : Model) (h : p.messageType.isForTalker) :
    m.Keeps (respond m p).1 ∧ (respond m p).1.sinkTables = m.sinkTables := by
  have hend := responded m h
  generalize respond m p = result at hend ⊢
  cases hend with
  | unknown hsource => exact ⟨.refl m, rfl⟩
  | @answered s s' answer hsource hact =>
    refine ⟨Model.keeps_modifySource fun s₀ hs₀ => ?_, Model.sinkTables_modifySource ..⟩
    obtain rfl := Option.some.inj (hsource.symm.trans hs₀)
    exact talkerUniqueId_of_act hact

theorem isSentByTalker_of_mem (h : p.messageType.isForTalker) {q : Pdu}
    (hq : q ∈ (respond m p).2) : q.messageType.isSentByTalker := by
  have hanswer := MessageType.isSentByTalker_toResponse h
  have hend := responded m h
  generalize respond m p = result at hend hq
  cases hend with
  | unknown hsource =>
    obtain rfl := List.mem_singleton.mp hq
    exact hanswer
  | answered hsource hact =>
    obtain rfl := List.mem_singleton.mp hq
    rw [messageType_of_act hact]
    exact hanswer

end Talker

/-! ## The listener -/

namespace Relay

variable {m : Model} {p q : Pdu}

/-- An answer leaves the number of the stream input. -/
theorem listenerUniqueId_conclude (s : Sink) (p : Pdu) (x : Exchange) :
    (conclude s p x).1.listenerUniqueId = s.listenerUniqueId := by
  unfold conclude
  split
  next => rfl
  next =>
    split
    next =>
      unfold Sink.unbind
      split <;> rfl
    next =>
      unfold Sink.bind
      split <;> rfl

theorem keeps_handle (r : Relay) (m : Model) (p : Pdu) (now : Time) (accepted : Bool) :
    m.Keeps (r.handle m p now accepted).2.1 ∧
      (r.handle m p now accepted).2.1.sourceTables = m.sourceTables := by
  have hend := handled r m p now accepted
  generalize r.handle m p now accepted = result at hend ⊢
  cases hend with
  | request hx htype => exact ⟨.refl m, rfl⟩
  | @settle x hx htype =>
    have hend := settled r m p x
    generalize r.settle m p x = result at hend ⊢
    cases hend with
    | unknown hsink => exact ⟨.refl m, rfl⟩
    | unsolicited hsink htake => exact ⟨.refl m, rfl⟩
    | @answered s entry t hsink htake =>
      refine ⟨Model.keeps_modifySink fun s₀ hs₀ => ?_, Model.sourceTables_modifySink ..⟩
      obtain rfl := Option.some.inj (hsink.symm.trans hs₀)
      exact listenerUniqueId_conclude s p x
  | describe htype => exact ⟨.refl m, rfl⟩
  | ignored htype => exact ⟨.refl m, rfl⟩

theorem isSentByListener_of_mem_request {r : Relay} {x : Exchange} (hx : x.IsRelayed)
    (htype : p.messageType = .command x.ofController) {now : Time} {accepted : Bool}
    (hq : q ∈ (r.request m p x now accepted).2) : q.messageType.isSentByListener := by
  have hanswer : ∀ status, (p.respond status).messageType.isSentByListener := by
    intro status
    rw [Pdu.messageType_respond htype]
    exact MessageType.isSentByListener_ofController x
  have hcommand : (r.outgoing p x).messageType.isSentByListener :=
    MessageType.isSentByListener_of_isRelayed hx
  have hend := requested r m p x now accepted
  generalize r.request m p x now accepted = result at hend hq
  cases hend with
  | unknown hsink => exact List.mem_singleton.mp hq ▸ hanswer _
  | refused hsink hrefusal => exact List.mem_singleton.mp hq ▸ hanswer _
  | full hsink hrefusal hfull => exact List.mem_singleton.mp hq ▸ hanswer _
  | unsent hsink hrefusal hinsert =>
    obtain rfl | hq := List.mem_cons.mp hq
    · exact hcommand
    · exact List.mem_singleton.mp hq ▸ hanswer _
  | forwarded hsink hrefusal hinsert => exact List.mem_singleton.mp hq ▸ hcommand

theorem isSentByListener_of_mem_handle {r : Relay} {now : Time} {accepted : Bool}
    (hq : q ∈ (r.handle m p now accepted).2.2) : q.messageType.isSentByListener := by
  have hend := handled r m p now accepted
  generalize r.handle m p now accepted = result at hend hq
  cases hend with
  | request hx htype => exact isSentByListener_of_mem_request hx htype hq
  | @settle x hx htype =>
    have hend := settled r m p x
    generalize r.settle m p x = result at hend hq
    cases hend with
    | unknown hsink => exact absurd hq List.not_mem_nil
    | unsolicited hsink htake => exact absurd hq List.not_mem_nil
    | answered hsink htake =>
      obtain rfl := List.mem_singleton.mp hq
      exact MessageType.isSentByListener_ofController x
  | describe htype =>
    obtain rfl := List.mem_singleton.mp hq
    have hdescribe : (describe m p).messageType = .response .getRxState := by
      unfold describe
      split
      next => exact Pdu.messageType_respond htype .listenerUnknownId
      next => exact Pdu.messageType_respond htype .success
    rw [hdescribe]
    rfl
  | ignored htype => exact absurd hq List.not_mem_nil

theorem isSentByListener_of_mem_tick {r : Relay} (h : r.HoldsCommands) {now : Time}
    (hq : q ∈ (r.tick now).2) : q.messageType.isSentByListener := by
  rw [sent_tick, List.mem_filterMap] at hq
  obtain ⟨e, he, htick⟩ := hq
  obtain ⟨x, hx, htype⟩ := h e he
  have hend := e.ticked now
  generalize e.tick now = result at hend htick
  cases hend with
  | waits hwait => cases htick
  | resent hdue hretried =>
    rw [← Option.some.inj htick, htype]
    exact MessageType.isSentByListener_of_isRelayed hx
  | givenUp hdue hretried =>
    rw [← Option.some.inj htick]
    exact MessageType.isSentByListener_ofController _

end Relay

/-! ## Both sides -/

namespace Manager

/-- What is kept when `c` and `m` become `c'` and `m'` and the PDUs are sent. -/
structure Sides (c : Manager) (m : Model) (c' : Manager) (m' : Model) (sent : List Pdu) : Prop where
  role : c'.role = c.role
  keeps : m.Keeps m'
  /-- An entity that is no listener has nothing in flight and leaves its stream inputs. -/
  talker : c.role.isListener = false →
    c' = c ∧ m'.sinkTables = m.sinkTables ∧ ∀ q ∈ sent, q.messageType.isSentByTalker
  /-- An entity that is no talker leaves its stream outputs. -/
  listener : c.role.isTalker = false →
    m'.sourceTables = m.sourceTables ∧ ∀ q ∈ sent, q.messageType.isSentByListener

namespace Sides

variable {c c' c'' : Manager} {m m' m'' : Model} {xs ys : List Pdu}

theorem refl (c : Manager) (m : Model) : Sides c m c m [] where
  role := rfl
  keeps := .refl m
  talker _ := ⟨rfl, rfl, fun _ hq => absurd hq List.not_mem_nil⟩
  listener _ := ⟨rfl, fun _ hq => absurd hq List.not_mem_nil⟩

theorem trans (h : Sides c m c' m' xs) (h' : Sides c' m' c'' m'' ys) :
    Sides c m c'' m'' (xs ++ ys) where
  role := h'.role.trans h.role
  keeps := h.keeps.trans h'.keeps
  talker hrole := by
    obtain ⟨hc, hsinks, hxs⟩ := h.talker hrole
    obtain ⟨hc', hsinks', hys⟩ := h'.talker (h.role ▸ hrole)
    exact ⟨hc'.trans hc, hsinks'.trans hsinks, List.forall_mem_append.mpr ⟨hxs, hys⟩⟩
  listener hrole := by
    obtain ⟨hsources, hxs⟩ := h.listener hrole
    obtain ⟨hsources', hys⟩ := h'.listener (h.role ▸ hrole)
    exact ⟨hsources'.trans hsources, List.forall_mem_append.mpr ⟨hxs, hys⟩⟩

/-- On the wire the PDUs are of the same types. -/
theorem received (h : Sides c m c' m' xs) : Sides c m c' m' (xs.map (·.received)) where
  role := h.role
  keeps := h.keeps
  talker hrole := by
    obtain ⟨hc, hsinks, hxs⟩ := h.talker hrole
    exact ⟨hc, hsinks, List.forall_mem_map.mpr hxs⟩
  listener hrole := by
    obtain ⟨hsources, hxs⟩ := h.listener hrole
    exact ⟨hsources, List.forall_mem_map.mpr hxs⟩

end Sides

theorem sides_handle (c : Manager) (m : Model) (p : Pdu) (now : Time) (accepted : Bool) :
    Sides c m (c.handle m p now accepted).1 (c.handle m p now accepted).2.1
      (c.handle m p now accepted).2.2 := by
  have hend := handled c m p now accepted
  generalize c.handle m p now accepted = result at hend ⊢
  cases hend with
  | talker htype hrole hnamed =>
    obtain ⟨hkeeps, hsinks⟩ := Talker.keeps_respond m htype
    refine ⟨rfl, hkeeps, fun _ => ⟨rfl, hsinks, fun q => Talker.isSentByTalker_of_mem htype⟩, ?_⟩
    intro hnone
    exact absurd (hnone.symm.trans hrole) Bool.false_ne_true
  | listener htype hrole hnamed =>
    obtain ⟨hkeeps, hsources⟩ := Relay.keeps_handle c.relay m p now accepted
    refine ⟨rfl, hkeeps, ?_, fun _ => ⟨hsources, fun q => Relay.isSentByListener_of_mem_handle⟩⟩
    intro hnone
    exact absurd (hnone.symm.trans hrole) Bool.false_ne_true
  | ignored htype => exact .refl c m

theorem sides_tick {c : Manager} (h : c.relay.HoldsCommands) (m : Model) (now : Time) :
    Sides c m (c.tick now).1 m (c.tick now).2 := by
  unfold tick
  split
  next hrole =>
    refine ⟨rfl, .refl m, ?_, fun _ => ⟨rfl, fun q => Relay.isSentByListener_of_mem_tick h⟩⟩
    intro hnone
    exact absurd (hnone.symm.trans hrole) Bool.false_ne_true
  next => exact .refl c m

end Manager

end AvbEntity.Connection

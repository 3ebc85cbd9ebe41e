import AvbEntity.Proofs.Discovery.Announcement
import AvbEntity.Proofs.Endpoint.Within

/-!
# Frames without effect

A frame that is malformed, or not for the entity, is ignored: nothing of the entity changes, and
nothing is sent. Both are told by the frame alone, and by the identity, the role and the running
protocols of the entity. Every other frame is acted on by one of the three protocols.

## Main definitions

* `Frame.Malformed`: a decoder on the way of a frame finds a fault
* `Endpoint.Unaddressed`: a PDU that is not for the entity
* `Endpoint.Ignored`: the frames without effect
* `Endpoint.Acts`: what all other frames do
* `Endpoint.Screens`: what becomes of a frame

## Main results

* `Endpoint.receive_of_malformed`, `Endpoint.receive_of_unaddressed`: such frames have no effect
* `Endpoint.acts_of_not_ignored`: all other frames are acted on
* `Endpoint.screens`: whatever the frame is, it is read within its bounds and ignored or acted on
-/

namespace AvbEntity

namespace Connection.MessageType

/-- Messages that nobody acts on: the answers to what a listener does not ask for. -/
def isUnheard : MessageType → Bool
  | .response .connectRx | .response .disconnectRx | .response .getRxState
  | .response .getTxState | .response .getTxConnection => true
  | _ => false

/-- Every other message is for one of the two sides. -/
theorem isUnheard_of_not_isFor {t : MessageType} (htalker : ¬ t.isForTalker)
    (hlistener : ¬ t.isForListener) : t.isUnheard := by
  cases t with
  | command x => cases x <;> first | exact absurd rfl htalker | exact absurd rfl hlistener
  | response x => cases x <;> first | rfl | exact absurd rfl hlistener

theorem not_isFor_of_isUnheard {t : MessageType} (h : t.isUnheard) :
    t.isForTalker = false ∧ t.isForListener = false := by
  unfold isUnheard at h
  split at h <;> first | exact ⟨rfl, rfl⟩ | exact absurd h Bool.false_ne_true

end Connection.MessageType

open Enumeration (Header ModelHeader ReadDescriptor Responder)

/-! ## Which frames -/

/-- A decoder on the way of the frame through the entity `own` finds a fault. -/
inductive Frame.Malformed (own : Eui64) (frame : Frame) : Prop
  | subtype {fault : DecodeError} (hpeek : peekSubtype frame.payload = .error fault)
  | discovery {fault : DecodeError} (hpeek : peekSubtype frame.payload = .ok .adp)
    (hdecode : Discovery.Pdu.decode frame.payload = .error fault)
  | header {fault : DecodeError} (hpeek : peekSubtype frame.payload = .ok .aecp)
    (hdecode : Header.decode frame.payload = .error fault)
  | command {h : Header} {fault : DecodeError} (hheader : Header.decode frame.payload = .ok h)
    (hid : h.targetEntityId = own) (haem : h.messageType = .command .aem)
    (hdecode : ModelHeader.decode frame.payload = .error fault)
  | target {request : ModelHeader} {fault : DecodeError}
    (hrequest : ModelHeader.decode frame.payload = .ok request)
    (hid : request.common.targetEntityId = own)
    (haem : request.common.messageType = .command .aem)
    (htype : request.commandType = .readDescriptor)
    (hdecode : ReadDescriptor.decode frame.payload = .error fault)
  | connection {fault : DecodeError} (hpeek : peekSubtype frame.payload = .ok .acmp)
    (hdecode : Connection.Pdu.decode frame.payload = .error fault)

namespace Endpoint

variable {e : Endpoint} {frame : Frame}

/-- The PDU of the frame is not for the entity. -/
inductive Unaddressed (e : Endpoint) (frame : Frame) : Prop
  /-- No request to announce the entity. -/
  | announcement {p : Discovery.Pdu} (hdecode : Discovery.Pdu.decode frame.payload = .ok p)
    (hnot : ¬ (p.messageType = .discover ∧
      (p.entityId.isZero ∨ p.entityId = e.model.entityId)))
  | target {h : Header} (hdecode : Header.decode frame.payload = .ok h)
    (hid : h.targetEntityId ≠ e.model.entityId)
  | response {h : Header} (hdecode : Header.decode frame.payload = .ok h)
    (hresponse : h.messageType.isCommand = false)
  | stopped (hpeek : peekSubtype frame.payload = .ok .acmp) (hstopped : e.acmpStarted = false)
  | talker {p : Connection.Pdu} (hdecode : Connection.Pdu.decode frame.payload = .ok p)
    (htype : p.messageType.isForTalker)
    (hnot : ¬ (e.connections.role.isTalker ∧ p.talkerEntityId = e.model.entityId))
  | listener {p : Connection.Pdu} (hdecode : Connection.Pdu.decode frame.payload = .ok p)
    (htype : p.messageType.isForListener)
    (hnot : ¬ (e.connections.role.isListener ∧ p.listenerEntityId = e.model.entityId))
  | unheard {p : Connection.Pdu} (hdecode : Connection.Pdu.decode frame.payload = .ok p)
    (htype : p.messageType.isUnheard)

/-- The frames without effect. -/
inductive Ignored (e : Endpoint) (frame : Frame) : Prop
  | other (hother : frame.isControl = false)
  | malformed (h : frame.Malformed e.model.entityId)
  | unaddressed (h : e.Unaddressed frame)

/-! ## They have no effect -/

section

variable (now : Time) (accepted : Bool)

theorem receive_of_route_error {fault : DecodeError}
    (hroute : e.route frame now accepted = .error fault) :
    e.receive frame now accepted = (e, []) := by
  rw [receive, hroute]
  exact ite_self _

theorem receive_of_route_ok (hroute : e.route frame now accepted = .ok (e, [])) :
    e.receive frame now accepted = (e, []) := by
  rw [receive, hroute]
  exact ite_self _

/-- A PDU that the responder cannot read to its end has no effect. -/
theorem receive_of_not_answered (hpeek : peekSubtype frame.payload = .ok .aecp)
    (hnot : ¬ ∃ o, Responder.answer e.model frame.payload = .ok o) :
    e.receive frame now accepted = (e, []) := by
  cases hhandle : e.responder.handle e.model frame.payload with
  | error fault => exact receive_of_handle_error frame hpeek hhandle now accepted
  | ok result => exact absurd ⟨result.2, (Responder.handle_eq_ok.mp hhandle).1⟩ hnot

/-- A PDU that the responder passes over has no effect. -/
theorem receive_of_answer_none (hanswer : Responder.answer e.model frame.payload = .ok none) :
    e.receive frame now accepted = (e, []) := by
  by_cases hcontrol : frame.isControl = true
  · have hhandle : e.responder.handle e.model frame.payload = .ok (e.responder, none) :=
      Responder.handle_eq_ok.mpr ⟨hanswer, rfl⟩
    exact receive_of_handle frame hcontrol hhandle now accepted
  · rw [receive, if_neg hcontrol]

/-- A discovery PDU only tells the advertiser. -/
theorem route_of_discovery {p : Discovery.Pdu}
    (hdecode : Discovery.Pdu.decode frame.payload = .ok p) :
    e.route frame now accepted =
      .ok ({ e with advertiser := e.advertiser.hear e.model.entityId p }, []) := by
  rw [route, Discovery.Pdu.peekSubtype_of_decode hdecode, bind_ok]
  simp only [hdecode, bind_ok]
  rfl

/-- A connection management PDU is handed to the manager, or dropped. -/
theorem receive_of_handle_ignored {p : Connection.Pdu}
    (hdecode : Connection.Pdu.decode frame.payload = .ok p)
    (hhandle : e.connections.handle e.model p now accepted = (e.connections, e.model, [])) :
    e.receive frame now accepted = (e, []) := by
  apply receive_of_route_ok
  rw [route, Connection.Pdu.peekSubtype_of_decode hdecode, bind_ok]
  simp only
  split
  next =>
    simp only [hdecode, bind_ok, hhandle]
    rfl
  next => rfl

theorem receive_of_malformed (h : frame.Malformed e.model.entityId) :
    e.receive frame now accepted = (e, []) := by
  cases h with
  | @subtype fault hpeek =>
    have hroute : e.route frame now accepted = .error fault := by
      rw [route, hpeek, error_bind]
    exact receive_of_route_error now accepted hroute
  | @discovery fault hpeek hdecode =>
    have hroute : e.route frame now accepted = .error fault := by
      rw [route, hpeek, bind_ok]
      simp only [hdecode, error_bind]
    exact receive_of_route_error now accepted hroute
  | header hpeek hdecode =>
    refine receive_of_not_answered now accepted hpeek fun hanswer => ?_
    obtain ⟨h, hheader, -⟩ := Responder.exists_answer_iff.mp hanswer
    cases hheader.symm.trans hdecode
  | @command h fault hheader hid haem hdecode =>
    refine receive_of_not_answered now accepted (Header.peekSubtype_of_decode hheader)
      fun hanswer => ?_
    obtain ⟨h', hheader', hmodel⟩ := Responder.exists_answer_iff.mp hanswer
    obtain rfl := Except.ok.inj (hheader.symm.trans hheader')
    obtain ⟨request, hrequest, -⟩ := hmodel hid haem
    cases hrequest.symm.trans hdecode
  | @target request fault hrequest hid haem htype hdecode =>
    obtain ⟨h, hheader, -⟩ := ModelHeader.decode_eq_ok.mp hrequest
    obtain rfl := ModelHeader.common_of_decode hheader hrequest
    refine receive_of_not_answered now accepted (Header.peekSubtype_of_decode hheader)
      fun hanswer => ?_
    obtain ⟨h', hheader', hmodel⟩ := Responder.exists_answer_iff.mp hanswer
    obtain rfl := Except.ok.inj (hheader.symm.trans hheader')
    obtain ⟨request', hrequest', htarget⟩ := hmodel hid haem
    obtain rfl := Except.ok.inj (hrequest.symm.trans hrequest')
    obtain ⟨t, ht⟩ := htarget htype
    cases ht.symm.trans hdecode
  | @connection fault hpeek hdecode =>
    by_cases hstarted : e.acmpStarted = true
    · have hroute : e.route frame now accepted = .error fault := by
        rw [route, hpeek, bind_ok]
        simp only [hstarted, if_true, hdecode, error_bind]
      exact receive_of_route_error now accepted hroute
    · have hroute : e.route frame now accepted = .ok (e, []) := by
        rw [route, hpeek, bind_ok]
        simp only [hstarted]
        rfl
      exact receive_of_route_ok now accepted hroute

theorem receive_of_unaddressed (h : e.Unaddressed frame) :
    e.receive frame now accepted = (e, []) := by
  cases h with
  | @announcement p hdecode hnot =>
    apply receive_of_route_ok
    have hhear : e.advertiser.hear e.model.entityId p = e.advertiser := by
      unfold Discovery.Advertiser.hear
      split
      next htype =>
        refine if_neg fun hid => hnot ⟨htype, ?_⟩
        rwa [Bool.or_eq_true, beq_iff_eq] at hid
      next => rfl
      next => rfl
    rw [route_of_discovery now accepted hdecode, hhear]
  | @target h hdecode hid =>
    have hforeign : (h.targetEntityId != e.model.entityId) = true := bne_iff_ne.mpr hid
    apply receive_of_answer_none
    rw [Responder.answer, hdecode, bind_ok, hforeign]
    rfl
  | @response h hdecode hresponse =>
    apply receive_of_answer_none
    rw [Responder.answer, hdecode, bind_ok, hresponse, Bool.not_false, Bool.or_true]
    rfl
  | stopped hpeek hstopped =>
    apply receive_of_route_ok
    rw [route, hpeek, bind_ok]
    simp only [hstopped]
    rfl
  | @talker p hdecode htype hnot =>
    refine receive_of_handle_ignored now accepted hdecode ?_
    rw [Connection.Manager.handle, if_pos htype, if_neg]
    rwa [Bool.and_eq_true, beq_iff_eq]
  | @listener p hdecode htype hnot =>
    refine receive_of_handle_ignored now accepted hdecode ?_
    have htalker : ¬ p.messageType.isForTalker := by
      intro htalker
      rw [Connection.Manager.isForListener_eq_false htalker] at htype
      exact Bool.false_ne_true htype
    rw [Connection.Manager.handle, if_neg htalker, if_pos htype, if_neg]
    rwa [Bool.and_eq_true, beq_iff_eq]
  | @unheard p hdecode htype =>
    obtain ⟨htalker, hlistener⟩ := Connection.MessageType.not_isFor_of_isUnheard htype
    refine receive_of_handle_ignored now accepted hdecode ?_
    rw [Connection.Manager.handle, htalker, hlistener]
    rfl

theorem receive_of_ignored (h : e.Ignored frame) : e.receive frame now accepted = (e, []) := by
  cases h with
  | other hother =>
    rw [receive, hother]
    rfl
  | malformed h => exact receive_of_malformed now accepted h
  | unaddressed h => exact receive_of_unaddressed now accepted h

end

/-! ## All other frames -/

/-- A PDU without a fault is read to its end by the responder. -/
theorem exists_answer_of_not_malformed (hpeek : peekSubtype frame.payload = .ok .aecp)
    (hformed : ¬ frame.Malformed e.model.entityId) :
    ∃ o, Responder.answer e.model frame.payload = .ok o := by
  rw [Responder.exists_answer_iff]
  cases hheader : Header.decode frame.payload with
  | error fault => exact absurd (.header hpeek hheader) hformed
  | ok h =>
    refine ⟨h, rfl, fun hid haem => ?_⟩
    cases hrequest : ModelHeader.decode frame.payload with
    | error fault => exact absurd (.command hheader hid haem hrequest) hformed
    | ok request =>
      obtain rfl := ModelHeader.common_of_decode hheader hrequest
      refine ⟨request, rfl, fun htype => ?_⟩
      cases htarget : ReadDescriptor.decode frame.payload with
      | error fault => exact absurd (.target hrequest hid haem htype htarget) hformed
      | ok t => exact ⟨t, rfl⟩

/-- What a frame does that is not ignored: the endpoint after it, and the frames sent in turn. -/
inductive Acts (e : Endpoint) (frame : Frame) (now : Time) (accepted : Bool) :
    Endpoint × List Outgoing → Prop
  /-- The entity will be announced. -/
  | discovered {p : Discovery.Pdu} (hdecode : Discovery.Pdu.decode frame.payload = .ok p) :
    Acts e frame now accepted
      ({ e with advertiser := { e.advertiser with needsAdvertise := true } }, [])
  /-- A command is answered to its sender, and counted. -/
  | answered {h : Header} {response : Octets} (hdecode : Header.decode frame.payload = .ok h)
    (hanswer : Responder.answer e.model frame.payload = .ok (some response)) :
    Acts e frame now accepted
      ({ e with responder := { count := e.responder.count + 1 } }, [⟨frame.src, response⟩])
  /-- The talker answers a command. -/
  | talker {p : Connection.Pdu} (hdecode : Connection.Pdu.decode frame.payload = .ok p)
    (htype : p.messageType.isForTalker) :
    Acts e frame now accepted
      ({ e with model := (Connection.Talker.respond e.model p).1 },
        (Connection.Talker.respond e.model p).2.map multicast)
  /-- The relay of the listener handles a PDU. -/
  | listener {p : Connection.Pdu} (hdecode : Connection.Pdu.decode frame.payload = .ok p)
    (htype : p.messageType.isForListener) :
    Acts e frame now accepted
      ({ e with
          connections :=
            { e.connections with
              relay := (e.connections.relay.handle e.model p now accepted).1 }
          model := (e.connections.relay.handle e.model p now accepted).2.1 },
        (e.connections.relay.handle e.model p now accepted).2.2.map multicast)

section

variable (now : Time) (accepted : Bool) (hcontrol : frame.isControl)
  (hformed : ¬ frame.Malformed e.model.entityId) (haddressed : ¬ e.Unaddressed frame)
include hcontrol hformed haddressed

theorem acts_of_discovery (hpeek : peekSubtype frame.payload = .ok .adp) :
    e.Acts frame now accepted (e.receive frame now accepted) := by
  cases hdecode : Discovery.Pdu.decode frame.payload with
  | error fault => exact absurd (.discovery hpeek hdecode) hformed
  | ok p =>
    obtain ⟨htype, hid⟩ := Decidable.not_not.mp fun hnot => haddressed (.announcement hdecode hnot)
    have hhear : e.advertiser.hear e.model.entityId p =
        { e.advertiser with needsAdvertise := true } := by
      rw [Discovery.Advertiser.hear, htype]
      refine if_pos ?_
      rwa [Bool.or_eq_true, beq_iff_eq]
    rw [receive, if_pos hcontrol, route_of_discovery now accepted hdecode, hhear]
    exact .discovered hdecode

theorem acts_of_enumeration (hpeek : peekSubtype frame.payload = .ok .aecp) :
    e.Acts frame now accepted (e.receive frame now accepted) := by
  obtain ⟨o, hanswer⟩ := exists_answer_of_not_malformed hpeek hformed
  obtain ⟨h, hheader, hend⟩ := Responder.answered hanswer
  have hmine : h.targetEntityId = e.model.entityId ∧ h.messageType.isCommand := by
    refine ⟨Decidable.not_not.mp fun hid => haddressed (.target hheader hid), ?_⟩
    exact eq_true_of_ne_false fun hresponse => haddressed (.response hheader hresponse)
  obtain ⟨response, rfl⟩ : ∃ response, o = some response := by
    cases hend with
    | passed hnot => exact absurd hmine hnot
    | foreign hid hcommand hclass => exact ⟨_, rfl⟩
    | available hid haem hrequest htype => exact ⟨_, rfl⟩
    | read hid haem hrequest htarget => exact ⟨_, rfl⟩
    | unknown hid haem hrequest htype => exact ⟨_, rfl⟩
  have hhandle : e.responder.handle e.model frame.payload =
      .ok ({ count := e.responder.count + 1 }, some response) :=
    Responder.handle_eq_ok.mpr ⟨hanswer, rfl⟩
  rw [receive_of_handle frame hcontrol hhandle now accepted]
  exact .answered hheader hanswer

theorem acts_of_connection (hpeek : peekSubtype frame.payload = .ok .acmp) :
    e.Acts frame now accepted (e.receive frame now accepted) := by
  have hstarted : e.acmpStarted :=
    eq_true_of_ne_false fun hstopped => haddressed (.stopped hpeek hstopped)
  cases hdecode : Connection.Pdu.decode frame.payload with
  | error fault => exact absurd (.connection hpeek hdecode) hformed
  | ok p =>
    rw [receive_of_decode hcontrol hstarted hdecode now accepted]
    by_cases htalker : p.messageType.isForTalker = true
    · obtain ⟨hrole, hid⟩ :=
        Decidable.not_not.mp fun hnot => haddressed (.talker hdecode htalker hnot)
      rw [Connection.Manager.handle_of_isForTalker now accepted hrole htalker hid]
      exact .talker hdecode htalker
    · by_cases hlistener : p.messageType.isForListener = true
      · obtain ⟨hrole, hid⟩ :=
          Decidable.not_not.mp fun hnot => haddressed (.listener hdecode hlistener hnot)
        rw [Connection.Manager.handle_of_isForListener now accepted hrole hlistener hid]
        exact .listener hdecode hlistener
      · have hunheard := Connection.MessageType.isUnheard_of_not_isFor htalker hlistener
        exact absurd (.unheard hdecode hunheard) haddressed

end

theorem acts_of_not_ignored (now : Time) (accepted : Bool) (h : ¬ e.Ignored frame) :
    e.Acts frame now accepted (e.receive frame now accepted) := by
  have hcontrol : frame.isControl :=
    eq_true_of_ne_false fun hother => h (.other hother)
  have hformed : ¬ frame.Malformed e.model.entityId := fun hmalformed =>
    h (.malformed hmalformed)
  have haddressed : ¬ e.Unaddressed frame := fun hunaddressed => h (.unaddressed hunaddressed)
  cases hpeek : peekSubtype frame.payload with
  | error fault => exact absurd (.subtype hpeek) hformed
  | ok subtype =>
    cases subtype with
    | adp => exact acts_of_discovery now accepted hcontrol hformed haddressed hpeek
    | aecp => exact acts_of_enumeration now accepted hcontrol hformed haddressed hpeek
    | acmp => exact acts_of_connection now accepted hcontrol hformed haddressed hpeek

/-- What becomes of a frame. -/
structure Screens (e : Endpoint) (frame : Frame) (now : Time) (accepted : Bool) : Prop where
  /-- Nothing is read outside of the payload. -/
  within : e.receiveWithin frame now accepted = some (e.receive frame now accepted)
  /-- A frame that is malformed or not for the entity changes nothing, and nothing is sent. -/
  ignored : e.Ignored frame → e.receive frame now accepted = (e, [])
  /-- No other frame is ignored. -/
  acts : ¬ e.Ignored frame → e.Acts frame now accepted (e.receive frame now accepted)

/-- **Frames that are malformed or not for the entity have no effect**: in every state, and
whatever the payload is. -/
theorem screens (e : Endpoint) (frame : Frame) (now : Time) (accepted : Bool) :
    e.Screens frame now accepted where
  within := receiveWithin_eq e frame now accepted
  ignored := receive_of_ignored now accepted
  acts := acts_of_not_ignored now accepted

end Endpoint

end AvbEntity

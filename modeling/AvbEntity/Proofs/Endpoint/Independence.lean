import AvbEntity.Proofs.Endpoint.Ignored
import AvbEntity.Proofs.Endpoint.StreamCounts

/-!
# The sub-protocols do not interfere

The three sub-protocols of an entity share one model. Discovery reads the ENTITY of it, enumeration
its shape, and connection management the streams; none of them writes what another one reads. So a
step is three steps side by side, one in the view of each sub-protocol: what a sub-protocol sends,
and what becomes of its state, can be told from its own view. Frames for the others, and frames that
are not understood, may come or not.

## Main definitions

* `framesOf`: the frames for a sub-protocol among what was sent
* `Endpoint.advanceDiscovery`, `Endpoint.advanceEnumeration`, `Endpoint.advanceConnection`: a step
  in the view of a sub-protocol
* `Endpoint.Alike`: two endpoints in the same view
* `Frame.isReadBy`, `Endpoint.Step.concerns`: what is for a sub-protocol
* `Endpoint.Step.Foreign`: a frame that is not for a sub-protocol
* `Endpoint.SameState`: the same state of a sub-protocol
* `Endpoint.Independent`: a run that says as much to a sub-protocol as another one

## Main results

* `Endpoint.discovery_step`, `Endpoint.enumeration_step`, `Endpoint.connection_step`: a step is made
  in each view by itself
* `Endpoint.Alike.step`: what is alike stays alike
* `Endpoint.alike_step_of_foreign`: a foreign frame leaves the view
* `Endpoint.Alike.run`: whatever foreign frames are left out, a run sends the same
* `Endpoint.independent_of_concerns`: all foreign frames may be left out
-/

namespace AvbEntity

/-! ## What is sent -/

/-- The frames for a sub-protocol among what was sent, by their first octet. -/
def framesOf (P : Subtype) (sent : List Outgoing) : List Outgoing :=
  sent.filter fun o => (peekSubtype o.payload).toOption == some P

@[simp] theorem framesOf_append (P : Subtype) (xs ys : List Outgoing) :
    framesOf P (xs ++ ys) = framesOf P xs ++ framesOf P ys :=
  List.filter_append ..

/-- What is sent for one sub-protocol is for none of the others. -/
theorem framesOf_eq_ite {P Q : Subtype} {sent : List Outgoing}
    (h : ∀ o ∈ sent, peekSubtype o.payload = .ok Q) :
    framesOf P sent = if Q = P then sent else [] := by
  have hpeek : ∀ o ∈ sent, ((peekSubtype o.payload).toOption == some P) = decide (Q = P) := by
    intro o ho
    rw [h o ho]
    cases P <;> cases Q <;> rfl
  rw [framesOf, List.filter_congr hpeek]
  split
  next heq => simp [heq]
  next hne => simp [hne]

namespace Endpoint

open Connection (Manager)
open Descriptor (Entity)
open Discovery (Advertiser)
open Enumeration (Responder)

theorem framesOf_announce (P : Subtype) (ps : List Discovery.Pdu) :
    framesOf P (ps.map announce) = if .adp = P then ps.map announce else [] := by
  apply framesOf_eq_ite
  intro o ho
  obtain ⟨p, -, rfl⟩ := List.mem_map.mp ho
  exact ControlHeader.peekSubtype_encode ..

theorem framesOf_multicast (P : Subtype) (ps : List Connection.Pdu) :
    framesOf P (ps.map multicast) = if .acmp = P then ps.map multicast else [] := by
  apply framesOf_eq_ite
  intro o ho
  obtain ⟨p, -, rfl⟩ := List.mem_map.mp ho
  exact peekSubtype_multicast p

variable {e e' : Endpoint} {frame : Frame} {now : Time} {accepted : Bool} {P : Subtype} {s : Step}

/-- Answers to commands are for enumeration. -/
theorem framesOf_answer {m : Model} {bs : Octets} {r r' : Responder} {response : Option Octets}
    (h : r.handle m bs = .ok (r', response)) (dest : Mac) :
    framesOf P (response.toList.map (Outgoing.mk dest)) =
      if .aecp = P then response.toList.map (Outgoing.mk dest) else [] :=
  framesOf_eq_ite fun _ ho => Responder.peekSubtype_of_mem h ho

/-! ## The three views -/

/-- A step in the view of discovery. -/
def advanceDiscovery (entity : Entity) (a : Advertiser) : Step → Advertiser × List Outgoing
  | .receive frame _ _ =>
    if frame.isControl then
      match Discovery.Pdu.decode frame.payload with
      | .ok p => (a.hear entity.entityId p, [])
      | .error _ => (a, [])
    else (a, [])
  | .tick now link =>
    let (a, announced) := a.tick entity now link
    (a, announced.map announce)
  | .setGrandmaster id => (a.setGrandmaster id, [])
  | .requestDiscover => (a.requestDiscover, [])
  | .requestDepart => (a.requestDepart, [])
  | .setAcmpStarted _ | .publish .. => (a, [])

/-- A step in the view of enumeration: `m` is the model, of which the shape is looked at. -/
def advanceEnumeration (m : Model) (r : Responder) : Step → Responder × List Outgoing
  | .receive frame _ _ =>
    if frame.isControl then
      match r.handle m frame.payload with
      | .ok (r, response) => (r, response.toList.map (⟨frame.src, ·⟩))
      | .error _ => (r, [])
    else (r, [])
  | _ => (r, [])

/-- What connection management looks at. -/
structure ConnectionView where
  connections : Manager
  model : Model
  started : Bool

/-- The view of connection management. -/
def connectionView (e : Endpoint) : ConnectionView :=
  ⟨e.connections, e.model, e.acmpStarted⟩

/-- A step in the view of connection management. -/
def advanceConnection (v : ConnectionView) : Step → ConnectionView × List Outgoing
  | .receive frame now accepted =>
    if frame.isControl && v.started then
      match Connection.Pdu.decode frame.payload with
      | .ok p =>
        let (connections, model, sent) := v.connections.handle v.model p now accepted
        ({ v with connections, model }, sent.map multicast)
      | .error _ => (v, [])
    else (v, [])
  | .tick now _ =>
    if v.started then
      let (connections, sent) := v.connections.tick now
      ({ v with connections }, sent.map multicast)
    else (v, [])
  | .setAcmpStarted started => ({ v with started }, [])
  | .publish configuration uniqueId streamId streamDestMac streamVlanId =>
    match v.model.source? configuration uniqueId with
    | some _ =>
      ({ v with
          model := v.model.modifySource configuration uniqueId
            (·.publish streamId streamDestMac streamVlanId) },
        [])
    | none => (v, [])
  | .setGrandmaster _ | .requestDiscover | .requestDepart => (v, [])

/-! ## A step is made in each view by itself -/

theorem discovery_receive (e : Endpoint) (frame : Frame) (now : Time) (accepted : Bool) :
    ((e.receive frame now accepted).1.advertiser, framesOf .adp (e.receive frame now accepted).2) =
      advanceDiscovery e.model.entity e.advertiser (.receive frame now accepted) := by
  rw [advanceDiscovery]
  cases hdecode : Discovery.Pdu.decode frame.payload with
  | ok p =>
    rw [receive, route_of_discovery now accepted hdecode]
    split <;> rfl
  | error fault =>
    simp only [ite_self]
    have hend := received e frame now accepted
    generalize e.receive frame now accepted = result at hend ⊢
    cases hend with
    | dropped => rfl
    | discovery hcontrol hdecode' => cases hdecode.symm.trans hdecode'
    | enumeration hcontrol hhandle => rw [framesOf_answer hhandle]; rfl
    | connection hcontrol hstarted hdecode' => rw [framesOf_multicast]; rfl

theorem enumeration_receive (e : Endpoint) (frame : Frame) (now : Time) (accepted : Bool) :
    ((e.receive frame now accepted).1.responder, framesOf .aecp (e.receive frame now accepted).2) =
      advanceEnumeration e.model e.responder (.receive frame now accepted) := by
  rw [advanceEnumeration]
  cases hhandle : e.responder.handle e.model frame.payload with
  | ok result =>
    by_cases hcontrol : frame.isControl = true
    · rw [receive_of_handle frame hcontrol hhandle now accepted, if_pos hcontrol,
        framesOf_answer hhandle]
      rfl
    · rw [receive, if_neg hcontrol, if_neg hcontrol]
      rfl
  | error fault =>
    simp only [ite_self]
    have hend := received e frame now accepted
    generalize e.receive frame now accepted = result at hend ⊢
    cases hend with
    | dropped => rfl
    | discovery hcontrol hdecode => rfl
    | enumeration hcontrol hhandle' => cases hhandle.symm.trans hhandle'
    | connection hcontrol hstarted hdecode => rw [framesOf_multicast]; rfl

theorem connection_receive (e : Endpoint) (frame : Frame) (now : Time) (accepted : Bool) :
    ((e.receive frame now accepted).1.connectionView,
        framesOf .acmp (e.receive frame now accepted).2) =
      advanceConnection e.connectionView (.receive frame now accepted) := by
  cases hheard : e.heard (.receive frame now accepted) with
  | some p =>
    obtain ⟨_, _, _, hs, hcontrol, hstarted, hdecode⟩ := heard_eq_some.mp hheard
    obtain ⟨rfl, rfl, rfl⟩ := Step.receive.inj hs
    rw [receive_of_decode hcontrol hstarted hdecode, framesOf_multicast]
    simp only [advanceConnection, connectionView, hcontrol, hstarted, Bool.and_self, if_true,
      hdecode]
  | none =>
    have hquiet : advanceConnection e.connectionView (.receive frame now accepted) =
        (e.connectionView, []) := by
      simp only [heard, ite_eq_right_iff] at hheard
      by_cases hruns : (frame.isControl && e.acmpStarted) = true
      · have hfault := hheard hruns
        cases hdecode : Connection.Pdu.decode frame.payload with
        | ok p =>
          rw [hdecode] at hfault
          cases hfault
        | error fault => simp only [advanceConnection, hdecode, ite_self]
      · exact if_neg hruns
    rw [hquiet]
    have hend := received e frame now accepted
    generalize e.receive frame now accepted = result at hend ⊢
    cases hend with
    | dropped => rfl
    | discovery hcontrol hdecode => rfl
    | enumeration hcontrol hhandle => rw [framesOf_answer hhandle]; rfl
    | connection hcontrol hstarted hdecode =>
      have hheard' := heard_eq_some.mpr ⟨frame, now, accepted, rfl, hcontrol, hstarted, hdecode⟩
      exact absurd (hheard.symm.trans hheard') (Option.some_ne_none _).symm

theorem discovery_step (e : Endpoint) (s : Step) :
    ((e.step s).1.advertiser, framesOf .adp (e.step s).2) =
      advanceDiscovery e.model.entity e.advertiser s := by
  cases s with
  | receive frame now accepted => exact discovery_receive ..
  | tick now link =>
    simp only [step, tick, advanceDiscovery, framesOf_append, framesOf_announce, framesOf_multicast]
    simp
  | publish configuration uniqueId streamId streamDestMac streamVlanId =>
    simp only [step, publish, modifySource]
    cases e.source configuration uniqueId <;> rfl
  | setAcmpStarted started => rfl
  | setGrandmaster id => rfl
  | requestDiscover => rfl
  | requestDepart => rfl

theorem enumeration_step (e : Endpoint) (s : Step) :
    ((e.step s).1.responder, framesOf .aecp (e.step s).2) =
      advanceEnumeration e.model e.responder s := by
  cases s with
  | receive frame now accepted => exact enumeration_receive ..
  | tick now link =>
    simp only [step, tick, advanceEnumeration, framesOf_append, framesOf_announce,
      framesOf_multicast]
    simp
  | publish configuration uniqueId streamId streamDestMac streamVlanId =>
    simp only [step, publish, modifySource]
    cases e.source configuration uniqueId <;> rfl
  | setAcmpStarted started => rfl
  | setGrandmaster id => rfl
  | requestDiscover => rfl
  | requestDepart => rfl

theorem connection_step (e : Endpoint) (s : Step) :
    ((e.step s).1.connectionView, framesOf .acmp (e.step s).2) =
      advanceConnection e.connectionView s := by
  cases s with
  | receive frame now accepted => exact connection_receive ..
  | tick now link =>
    simp only [step, tick, advanceConnection, connectionView, framesOf_append, framesOf_announce,
      framesOf_multicast]
    by_cases hstarted : e.acmpStarted = true <;> simp [hstarted]
  | publish configuration uniqueId streamId streamDestMac streamVlanId =>
    simp only [step, publish, modifySource, source, advanceConnection, connectionView]
    cases hsource : e.model.source? configuration uniqueId with
    | none => rfl
    | some source => rfl
  | setAcmpStarted started => rfl
  | setGrandmaster id => rfl
  | requestDiscover => rfl
  | requestDepart => rfl

/-! ## Two endpoints in the same view -/

/-- The endpoints are alike in the view of the sub-protocol. -/
def Alike : Subtype → Endpoint → Endpoint → Prop
  | .adp, e, e' => e.advertiser = e'.advertiser ∧ e.model.entity = e'.model.entity
  | .aecp, e, e' => e.responder = e'.responder ∧ e.model.shape = e'.model.shape
  | .acmp, e, e' => e.connectionView = e'.connectionView

namespace Alike

theorem refl (P : Subtype) (e : Endpoint) : Alike P e e := by
  cases P with
  | adp => exact ⟨rfl, rfl⟩
  | aecp => exact ⟨rfl, rfl⟩
  | acmp => exact Eq.refl e.connectionView

theorem trans {e'' : Endpoint} (h : Alike P e e') (h' : Alike P e' e'') : Alike P e e'' := by
  cases P with
  | adp => exact ⟨h.1.trans h'.1, h.2.trans h'.2⟩
  | aecp => exact ⟨h.1.trans h'.1, h.2.trans h'.2⟩
  | acmp => exact Eq.trans h h'

end Alike

/-- A step in the view of enumeration is told by the shape of the model. -/
theorem advanceEnumeration_congr {m m' : Model} (h : m.shape = m'.shape) (r : Responder)
    (s : Step) : advanceEnumeration m r s = advanceEnumeration m' r s := by
  cases s with
  | receive frame now accepted =>
    rw [advanceEnumeration, advanceEnumeration, Model.handle_congr h]
  | _ => rfl

/-- What is alike stays alike in a step, and sends the same. -/
theorem Alike.step (h : Alike P e e') (s : Step) :
    Alike P (e.step s).1 (e'.step s).1 ∧
      framesOf P (e.step s).2 = framesOf P (e'.step s).2 := by
  cases P with
  | adp =>
    obtain ⟨hadvertiser, hentity⟩ := h
    have hstep := discovery_step e s
    rw [hadvertiser, hentity, ← discovery_step] at hstep
    obtain ⟨hadvertiser', hsent⟩ := Prod.mk.inj hstep
    exact ⟨⟨hadvertiser', by rw [entity_step, entity_step, hentity]⟩, hsent⟩
  | aecp =>
    obtain ⟨hresponder, hshape⟩ := h
    have hstep := enumeration_step e s
    rw [hresponder, advanceEnumeration_congr hshape, ← enumeration_step] at hstep
    obtain ⟨hresponder', hsent⟩ := Prod.mk.inj hstep
    exact ⟨⟨hresponder', by rw [shape_step, shape_step, hshape]⟩, hsent⟩
  | acmp =>
    have hview : e.connectionView = e'.connectionView := h
    have hstep := connection_step e s
    rw [hview, ← connection_step] at hstep
    exact Prod.mk.inj hstep

end Endpoint

/-! ## Foreign frames -/

section

open Enumeration (Header ModelHeader ReadDescriptor)

/-- The decoders of a sub-protocol in the entity `own` read the frame without a fault. -/
def Frame.isReadBy (own : Eui64) (frame : Frame) : Subtype → Bool
  | .adp => (Discovery.Pdu.decode frame.payload).toOption.isSome
  | .aecp =>
    match Header.decode frame.payload with
    | .error _ => false
    | .ok h =>
      if h.targetEntityId = own ∧ h.messageType = .command .aem then
        match ModelHeader.decode frame.payload with
        | .error _ => false
        | .ok request =>
          request.commandType ≠ .readDescriptor ||
            (ReadDescriptor.decode frame.payload).toOption.isSome
      else true
  | .acmp => (Connection.Pdu.decode frame.payload).toOption.isSome

/-- A frame that is routed to a sub-protocol and not read by it is malformed. -/
theorem Frame.malformed_of_not_isReadBy {own : Eui64} {frame : Frame} {P : Subtype}
    (hpeek : peekSubtype frame.payload = .ok P) (h : frame.isReadBy own P = false) :
    frame.Malformed own := by
  cases P with
  | adp =>
    cases hdecode : Discovery.Pdu.decode frame.payload with
    | error fault => exact .discovery hpeek hdecode
    | ok p =>
      rw [isReadBy, hdecode] at h
      cases h
  | aecp =>
    cases hheader : Header.decode frame.payload with
    | error fault => exact .header hpeek hheader
    | ok header =>
      simp only [isReadBy, hheader] at h
      split at h
      next hmodel =>
        cases hrequest : ModelHeader.decode frame.payload with
        | error fault => exact .command hheader hmodel.1 hmodel.2 hrequest
        | ok request =>
          obtain rfl := ModelHeader.common_of_decode hheader hrequest
          simp only [hrequest, Bool.or_eq_false_iff, decide_eq_false_iff_not, ne_eq,
            Decidable.not_not] at h
          cases htarget : ReadDescriptor.decode frame.payload with
          | error fault => exact .target hrequest hmodel.1 hmodel.2 h.1 htarget
          | ok t =>
            rw [htarget] at h
            cases h.2
      next => cases h
  | acmp =>
    cases hdecode : Connection.Pdu.decode frame.payload with
    | error fault => exact .connection hpeek hdecode
    | ok p =>
      rw [isReadBy, hdecode] at h
      cases h

end

namespace Endpoint

open Enumeration (Responder)

/-- The step is more than a frame for another sub-protocol, or one that is not understood. -/
def Step.concerns (own : Eui64) (P : Subtype) : Step → Bool
  | .receive frame _ _ => frame.isControl && frame.isReadBy own P
  | _ => true

/-- A frame that is not for the sub-protocol: the entity `own` drops it or routes it elsewhere. -/
inductive Step.Foreign (own : Eui64) (P : Subtype) : Step → Prop
  | other {frame : Frame} {now : Time} {accepted : Bool} (hother : frame.isControl = false) :
    Foreign own P (.receive frame now accepted)
  | malformed {frame : Frame} {now : Time} {accepted : Bool} (h : frame.Malformed own) :
    Foreign own P (.receive frame now accepted)
  | routed {frame : Frame} {now : Time} {accepted : Bool} {Q : Subtype}
    (hpeek : peekSubtype frame.payload = .ok Q) (hne : Q ≠ P) :
    Foreign own P (.receive frame now accepted)

theorem Step.foreign_of_not_concerns {own : Eui64} {P : Subtype} {s : Step}
    (h : s.concerns own P = false) : s.Foreign own P := by
  cases s with
  | receive frame now accepted =>
    rw [concerns, Bool.and_eq_false_iff] at h
    obtain hother | hread := h
    · exact .other hother
    · cases hpeek : peekSubtype frame.payload with
      | error fault => exact .malformed (.subtype hpeek)
      | ok Q =>
        by_cases heq : Q = P
        · exact .malformed (Frame.malformed_of_not_isReadBy (heq ▸ hpeek) hread)
        · exact .routed hpeek heq
  | _ => cases h

section

variable {e e' : Endpoint} {frame : Frame} {now : Time} {accepted : Bool} {P Q : Subtype}
  (hpeek : peekSubtype frame.payload = .ok Q)
include hpeek

theorem advanceDiscovery_of_ne (hne : Q ≠ .adp) (entity : Descriptor.Entity)
    (a : Discovery.Advertiser) :
    advanceDiscovery entity a (.receive frame now accepted) = (a, []) := by
  rw [advanceDiscovery]
  cases hdecode : Discovery.Pdu.decode frame.payload with
  | error fault => exact ite_self _
  | ok p =>
    have hpeek' := Discovery.Pdu.peekSubtype_of_decode hdecode
    exact absurd (Except.ok.inj (hpeek.symm.trans hpeek')) hne

theorem advanceEnumeration_of_ne (hne : Q ≠ .aecp) (m : Model) (r : Responder) :
    advanceEnumeration m r (.receive frame now accepted) = (r, []) := by
  rw [advanceEnumeration]
  cases hhandle : r.handle m frame.payload with
  | error fault => exact ite_self _
  | ok result =>
    obtain ⟨h, hheader, -⟩ := Responder.answered (Responder.handle_eq_ok.mp hhandle).1
    have hpeek' := Enumeration.Header.peekSubtype_of_decode hheader
    exact absurd (Except.ok.inj (hpeek.symm.trans hpeek')) hne

theorem advanceConnection_of_ne (hne : Q ≠ .acmp) (v : ConnectionView) :
    advanceConnection v (.receive frame now accepted) = (v, []) := by
  rw [advanceConnection]
  cases hdecode : Connection.Pdu.decode frame.payload with
  | error fault => exact ite_self _
  | ok p =>
    have hpeek' := Connection.Pdu.peekSubtype_of_decode hdecode
    exact absurd (Except.ok.inj (hpeek.symm.trans hpeek')) hne

/-- A frame that is routed elsewhere leaves the view. -/
theorem alike_step_of_ne (hne : Q ≠ P) (e : Endpoint) :
    Alike P (e.step (.receive frame now accepted)).1 e ∧
      framesOf P (e.step (.receive frame now accepted)).2 = [] := by
  cases P with
  | adp =>
    have hstep := discovery_step e (.receive frame now accepted)
    rw [advanceDiscovery_of_ne hpeek hne] at hstep
    obtain ⟨hadvertiser, hsent⟩ := Prod.mk.inj hstep
    exact ⟨⟨hadvertiser, entity_step ..⟩, hsent⟩
  | aecp =>
    have hstep := enumeration_step e (.receive frame now accepted)
    rw [advanceEnumeration_of_ne hpeek hne] at hstep
    obtain ⟨hresponder, hsent⟩ := Prod.mk.inj hstep
    exact ⟨⟨hresponder, shape_step ..⟩, hsent⟩
  | acmp =>
    have hstep := connection_step e (.receive frame now accepted)
    rw [advanceConnection_of_ne hpeek hne] at hstep
    exact Prod.mk.inj hstep

end

variable {e e' : Endpoint} {P : Subtype} {s : Step}

/-- A foreign frame leaves the view, and is not answered in it. -/
theorem alike_step_of_foreign (hs : s.Foreign e.model.entityId P) :
    Alike P (e.step s).1 e ∧ framesOf P (e.step s).2 = [] := by
  cases hs with
  | @other frame now accepted hother =>
    rw [step, receive_of_ignored now accepted (.other hother)]
    exact ⟨.refl P e, rfl⟩
  | @malformed frame now accepted h =>
    rw [step, receive_of_malformed now accepted h]
    exact ⟨.refl P e, rfl⟩
  | routed hpeek hne => exact alike_step_of_ne hpeek hne e

/-! ## Runs -/

/-- Whatever foreign frames are left out, a run stays alike and sends the same. -/
theorem Alike.run {keep : Step → Bool} {steps : List Step} (h : Alike P e e')
    (hkeep : ∀ s ∈ steps, keep s = false → s.Foreign e.model.entityId P) :
    Alike P (e.after steps) (e'.after (steps.filter keep)) ∧
      framesOf P (e.sends steps) = framesOf P (e'.sends (steps.filter keep)) := by
  -- the two runs are alike in the view after each step, whether both make it or not
  induction steps generalizing e e' with
  | nil => exact ⟨h, rfl⟩
  | cons s steps ih =>
    have hid : (e.step s).1.model.entityId = e.model.entityId :=
      congrArg (·.entityId) (entity_step e s)
    have hrest : ∀ s' ∈ steps, keep s' = false → s'.Foreign (e.step s).1.model.entityId P :=
      fun s' hs' => hid ▸ hkeep s' (List.mem_cons_of_mem s hs')
    cases hs : keep s with
    | true =>
      obtain ⟨hstep, hsent⟩ := h.step s
      obtain ⟨hafter, hsends⟩ := ih hstep hrest
      rw [List.filter_cons_of_pos hs]
      exact ⟨hafter, by rw [sends, sends, framesOf_append, framesOf_append, hsent, hsends]⟩
    | false =>
      obtain ⟨hstep, hsent⟩ := alike_step_of_foreign (hkeep s List.mem_cons_self hs)
      obtain ⟨hafter, hsends⟩ := ih (hstep.trans h) hrest
      rw [List.filter_cons_of_neg (Bool.not_eq_true _ ▸ hs)]
      exact ⟨hafter, by rw [sends, framesOf_append, hsent, hsends, List.nil_append]⟩

/-- The state of the sub-protocol is the same: of discovery the advertiser, of enumeration the
number of commands answered and all answers, and of connection management the streams and the
commands in flight with their numbers. -/
def SameState : Subtype → Endpoint → Endpoint → Prop
  | .adp, e, e' => e.advertiser = e'.advertiser
  | .aecp, e, e' => e.responder.count = e'.responder.count ∧
    ∀ bs, Responder.answer e.model bs = Responder.answer e'.model bs
  | .acmp, e, e' => e.model = e'.model ∧ e.connections = e'.connections

theorem Alike.sameState (h : Alike P e e') : SameState P e e' := by
  cases P with
  | adp => exact h.1
  | aecp => exact ⟨congrArg _ h.1, fun bs => Model.answer_congr h.2 bs⟩
  | acmp =>
    have hview : e.connectionView = e'.connectionView := h
    exact ⟨congrArg (·.model) hview, congrArg (·.connections) hview⟩

/-- The run says as much to the sub-protocol as the run without some of its steps. -/
structure Independent (e : Endpoint) (P : Subtype) (steps kept : List Step) : Prop where
  sends : framesOf P (e.sends steps) = framesOf P (e.sends kept)
  state : SameState P (e.after steps) (e.after kept)

/-- **The sub-protocols do not interfere**: all frames for the other two, and all that are not
understood, may be left out of a run. -/
theorem independent_of_concerns (e : Endpoint) (P : Subtype) (steps : List Step) :
    e.Independent P steps (steps.filter (·.concerns e.model.entityId P)) := by
  obtain ⟨hafter, hsends⟩ := (Alike.refl P e).run fun s (_ : s ∈ steps) =>
    Step.foreign_of_not_concerns
  exact ⟨hsends, hafter.sameState⟩

end Endpoint

end AvbEntity

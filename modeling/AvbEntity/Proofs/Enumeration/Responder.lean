import AvbEntity.Enumeration.Responder
import AvbEntity.Ethernet.Frame
import AvbEntity.Proofs.Wire.Codec

/-!
# What the responder can do

A PDU that is read to its end is passed over, repeated as not implemented, or carried out. Later
proofs go by these cases.

## Main definitions

* `Responder.Answered`: how a PDU with a header can end

## Main results

* `Responder.answered`: these are the only ways
* `Responder.exists_answer_iff`: which PDUs are read to their end
* `Responder.peekSubtype_of_handle`: every answer is recognised by its first octet
-/

namespace AvbEntity.Enumeration.Responder

variable {m : Model} {bs : Octets}

/-- How a PDU with the header `h` can end. -/
inductive Answered (m : Model) (bs : Octets) (h : Header) : Option Octets → Prop
  | passed (hnot : ¬ (h.targetEntityId = m.entityId ∧ h.messageType.isCommand)) :
    Answered m bs h none
  | foreign (hid : h.targetEntityId = m.entityId) (hcommand : h.messageType.isCommand)
    (hclass : h.messageType ≠ .command .aem) :
    Answered m bs h (some (h.echo bs Status.notImplemented.code))
  | available {request : ModelHeader} (hid : h.targetEntityId = m.entityId)
    (haem : h.messageType = .command .aem) (hrequest : ModelHeader.decode bs = .ok request)
    (htype : request.commandType = .entityAvailable) :
    Answered m bs h (some (request.respond .success []))
  | read {request : ModelHeader} {t : ReadDescriptor} (hid : h.targetEntityId = m.entityId)
    (haem : h.messageType = .command .aem) (hrequest : ModelHeader.decode bs = .ok request)
    (htarget : ReadDescriptor.decode bs = .ok t) :
    Answered m bs h (some (readDescriptor m request t))
  | unknown {request : ModelHeader} (hid : h.targetEntityId = m.entityId)
    (haem : h.messageType = .command .aem) (hrequest : ModelHeader.decode bs = .ok request)
    (htype : request.commandType ≠ .readDescriptor) :
    Answered m bs h (some (h.echo bs Status.notImplemented.code))

theorem answered {o : Option Octets} (hanswer : answer m bs = .ok o) :
    ∃ h, Header.decode bs = .ok h ∧ Answered m bs h o := by
  obtain ⟨h, hdecode, hanswer⟩ := bind_eq_ok.mp hanswer
  refine ⟨h, hdecode, ?_⟩
  simp only [pure, Except.pure] at hanswer
  split at hanswer
  next hnot =>
    obtain rfl := Except.ok.inj hanswer
    refine .passed ?_
    rintro ⟨hid, hcommand⟩
    rw [hid, hcommand, bne_self_eq_false] at hnot
    exact Bool.false_ne_true hnot
  next hmine =>
    rw [Bool.or_eq_true, not_or, bne_iff_ne, ne_eq, Decidable.not_not, Bool.not_eq_true',
      Bool.not_eq_false] at hmine
    obtain ⟨hid, hcommand⟩ := hmine
    split at hanswer
    next hclass =>
      obtain rfl := Except.ok.inj hanswer
      exact .foreign hid hcommand (bne_iff_ne.mp hclass)
    next haem =>
      rw [bne_iff_ne, ne_eq, Decidable.not_not] at haem
      obtain ⟨request, hrequest, hanswer⟩ := bind_eq_ok.mp hanswer
      split at hanswer
      next htype =>
        obtain rfl := Except.ok.inj hanswer
        exact .available hid haem hrequest htype
      next =>
        split at hanswer
        next =>
          obtain ⟨t, htarget, hanswer⟩ := bind_eq_ok.mp hanswer
          obtain rfl := Except.ok.inj hanswer
          exact .read hid haem hrequest htarget
        next htype =>
          obtain rfl := Except.ok.inj hanswer
          exact .unknown hid haem hrequest htype

/-- A header is enough for a PDU to be read to its end. Only a command to the entity on the entity
model has to have more: its command type, and a read command its target. -/
theorem exists_answer_iff : (∃ o, answer m bs = .ok o) ↔
    ∃ h, Header.decode bs = .ok h ∧
      (h.targetEntityId = m.entityId → h.messageType = .command .aem →
        ∃ request, ModelHeader.decode bs = .ok request ∧
          (request.commandType = .readDescriptor → ∃ t, ReadDescriptor.decode bs = .ok t)) := by
  constructor
  · rintro ⟨o, hanswer⟩
    obtain ⟨h, hdecode, hend⟩ := answered hanswer
    refine ⟨h, hdecode, fun hid haem => ?_⟩
    cases hend with
    | passed hnot => exact absurd ⟨hid, haem ▸ rfl⟩ hnot
    | foreign hid' hcommand hclass => exact absurd haem hclass
    | @available request hid' haem' hrequest htype =>
      refine ⟨request, hrequest, fun hread => ?_⟩
      exact absurd (htype.symm.trans hread) (by decide)
    | read hid' haem' hrequest htarget => exact ⟨_, hrequest, fun _ => ⟨_, htarget⟩⟩
    | unknown hid' haem' hrequest htype => exact ⟨_, hrequest, fun hread => absurd hread htype⟩
  · rintro ⟨h, hdecode, hmodel⟩
    simp only [answer, hdecode, bind_ok]
    split
    next => exact ⟨none, rfl⟩
    next hmine =>
      rw [Bool.or_eq_true, not_or, bne_iff_ne, ne_eq, Decidable.not_not] at hmine
      split
      next => exact ⟨_, rfl⟩
      next haem =>
        rw [bne_iff_ne, ne_eq, Decidable.not_not] at haem
        obtain ⟨request, hrequest, htarget⟩ := hmodel hmine.1 haem
        rw [hrequest, bind_ok]
        split
        next => exact ⟨_, rfl⟩
        next =>
          split
          next hread =>
            obtain ⟨t, ht⟩ := htarget hread
            rw [ht, bind_ok]
            exact ⟨_, rfl⟩
          next => exact ⟨_, rfl⟩

/-- The answer that is given is counted. -/
theorem handle_eq_ok {r r' : Responder} {o : Option Octets} :
    r.handle m bs = .ok (r', o) ↔
      answer m bs = .ok o ∧ r' = if o.isSome then { count := r.count + 1 } else r := by
  rw [handle, bind_eq_ok]
  constructor
  · rintro ⟨o', hanswer, h⟩
    cases o' with
    | none => cases h; exact ⟨hanswer, rfl⟩
    | some response => cases h; exact ⟨hanswer, rfl⟩
  · rintro ⟨hanswer, rfl⟩
    refine ⟨o, hanswer, ?_⟩
    cases o <;> rfl

/-! ## What an answer begins with -/

theorem readDescriptor_encode (m : Model) (request : ModelHeader) (t : ReadDescriptor) :
    ∃ (header : Header) (rest : Octets), readDescriptor m request t = header.encode ++ rest := by
  unfold readDescriptor
  split
  next => exact ⟨_, _, rfl⟩
  next =>
    split
    next => exact ⟨_, _, rfl⟩
    next =>
      split
      next => exact ⟨_, _, rfl⟩
      next => exact ⟨_, _, rfl⟩

/-- Every answer begins with a header. -/
theorem answer_encode {response : Octets} (hanswer : answer m bs = .ok (some response)) :
    ∃ (header : Header) (rest : Octets), response = header.encode ++ rest := by
  obtain ⟨h, -, hend⟩ := answered hanswer
  cases hend with
  | foreign hid hcommand hclass => exact ⟨_, _, rfl⟩
  | available hid haem hrequest htype => exact ⟨_, _, rfl⟩
  | read hid haem hrequest htarget => exact readDescriptor_encode ..
  | unknown hid haem hrequest htype => exact ⟨_, _, rfl⟩

/-- Every answer is recognised by its first octet. -/
theorem peekSubtype_of_handle {r r' : Responder} {octets : Octets}
    (h : r.handle m bs = .ok (r', some octets)) : peekSubtype octets = .ok .aecp := by
  obtain ⟨header, rest, rfl⟩ := answer_encode (handle_eq_ok.mp h).1
  rw [Header.encode, List.append_assoc]
  exact ControlHeader.peekSubtype_encode ..

/-- What is sent in answer is for enumeration. -/
theorem peekSubtype_of_mem {r r' : Responder} {response : Option Octets}
    (h : r.handle m bs = .ok (r', response)) {dest : Mac} {o : Outgoing}
    (ho : o ∈ response.toList.map (Outgoing.mk dest)) : peekSubtype o.payload = .ok .aecp := by
  obtain ⟨octets, hoctets, rfl⟩ := List.mem_map.mp ho
  obtain rfl := Option.mem_def.mp (Option.mem_toList.mp hoctets)
  exact peekSubtype_of_handle h

end AvbEntity.Enumeration.Responder

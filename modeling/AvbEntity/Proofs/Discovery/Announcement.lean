import AvbEntity.Discovery.Advertiser
import AvbEntity.Proofs.Wire.Codec

/-!
# What is announced of an entity

A discovery PDU is read back from its octets, except that only five bits of the lifetime are sent.
Whatever the advertiser sends is the request to every other entity, or says of the entity what its
ENTITY descriptor says.

## Main definitions

* `Discovery.Pdu.received`: the PDU as those see it who receive its octets

## Main results

* `Discovery.Pdu.decode_encode`: a PDU is read back
* `Discovery.Pdu.peekSubtype_of_decode`: what is read as a PDU is recognised by its first octet
* `Discovery.Advertiser.mem_tick`: what a tick sends
-/

namespace AvbEntity.Discovery

theorem MessageType.ofCode_code (m : MessageType) : ofCode m.code = .ok m := by
  cases m <;> rfl

theorem MessageType.code_mod (m : MessageType) : UInt8.ofNat (m.code.toNat % 16) = m.code := by
  cases m <;> rfl

namespace Pdu

/-- The PDU as those see it who receive its octets: five bits of the lifetime are sent. -/
def received (p : Pdu) : Pdu :=
  { p with validTime := .ofNat (p.validTime.toNat % 32) }

theorem faithful_body (messageType : MessageType) (validTime : UInt8) (entityId : Eui64) (p : Pdu)
    (rest : Octets) :
    (body messageType validTime entityId).read
        ((body messageType validTime entityId).write p ++ rest) =
      { p with messageType, validTime, entityId } := by
  have hwrite : (body messageType validTime entityId).write p =
      (body messageType validTime entityId).write { p with messageType, validTime, entityId } := rfl
  rw [hwrite]
  unfold body
  refine Layout.Faithful.iso ?_ rfl rest
  exact .pair Layout.faithful_eui64 <| .pair Layout.faithful_word32 <|
    .pair Layout.faithful_word16 <| .pair Layout.faithful_word16 <|
    .pair Layout.faithful_word16 <| .pair Layout.faithful_word16 <|
    .pair Layout.faithful_word32 <| .pair Layout.faithful_word32 <|
    .pair Layout.faithful_eui64 <| .pair Layout.faithful_word8 <|
    .pair (Layout.faithful_reserved 3) <| .pair Layout.faithful_word16 <|
    .pair Layout.faithful_word16 <| .pair Layout.faithful_eui64 <| Layout.faithful_reserved 4

theorem length_encode (p : Pdu) : p.encode.length = length := by
  rw [encode, List.length_append, ControlHeader.length_encode, Layout.length_write]
  rfl

/-- A PDU is read back from its octets, whatever follows them. -/
theorem decode_encode (p : Pdu) (rest : Octets) : decode (p.encode ++ rest) = .ok p.received := by
  have hlong : ensureLength (p.encode ++ rest) length = .ok () := by
    rw [ensureLength_eq_ok, List.length_append, length_encode]
    exact Nat.le_add_right ..
  have hheader : ControlHeader.decodeExpecting .adp (p.encode ++ rest) = .ok p.header.masked := by
    rw [encode, List.append_assoc, ControlHeader.decodeExpecting_eq_ok]
    exact ⟨ControlHeader.decode_encode rfl _, ControlHeader.subtype_masked_of ..⟩
  have htype : MessageType.ofCode p.header.masked.messageType = .ok p.messageType := by
    rw [← MessageType.ofCode_code p.messageType, ← MessageType.code_mod p.messageType]
    rfl
  have hbody : (p.encode ++ rest).drop ControlHeader.length =
      (body p.messageType p.validTime p.entityId).write p ++ rest := by
    rw [encode, List.append_assoc, List.drop_left' (ControlHeader.length_encode _)]
  rw [decode, hheader, bind_ok, hlong, bind_ok, htype, bind_ok, hbody]
  exact congrArg Except.ok (faithful_body ..)

theorem peekSubtype_of_decode {bs : Octets} {p : Pdu} (h : decode bs = .ok p) :
    peekSubtype bs = .ok .adp := by
  obtain ⟨header, hheader, -⟩ := bind_eq_ok.mp h
  exact ControlHeader.peekSubtype_of_decodeExpecting hheader

end Pdu

namespace Advertiser

open Descriptor (Entity)

variable (a : Advertiser) (e : Entity) (now : Time)

theorem mem_advertise {p : Pdu} (h : p ∈ (a.advertise e now).2) :
    p = a.announcement e .available := by
  unfold advertise at h
  split at h
  next => exact List.mem_singleton.mp h
  next => exact absurd h List.not_mem_nil

theorem mem_solicit {p : Pdu} (h : p ∈ a.solicit.2) : p = .discover := by
  unfold solicit at h
  split at h
  next => exact List.mem_singleton.mp h
  next => exact absurd h List.not_mem_nil

theorem mem_depart {p : Pdu} (h : p ∈ (a.depart e now).2) :
    p = a.announcement e .departing := by
  unfold depart at h
  split at h
  next => exact List.mem_singleton.mp h
  next => exact absurd h List.not_mem_nil

/-- What a tick sends asks for other entities, or is said of the entity. -/
theorem mem_tick {link : Option Bool} {p : Pdu} (h : p ∈ (a.tick e now link).2) :
    p = .discover ∨ ∃ (a' : Advertiser) (t : MessageType), p = a'.announcement e t := by
  unfold tick at h
  rw [List.mem_append, List.mem_append] at h
  rcases h with (h | h) | h
  · exact .inr ⟨_, _, mem_advertise _ e now h⟩
  · exact .inl (mem_solicit _ h)
  · exact .inr ⟨_, _, mem_depart _ e now h⟩

end Advertiser

end AvbEntity.Discovery

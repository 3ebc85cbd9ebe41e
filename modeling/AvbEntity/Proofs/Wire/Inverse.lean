import AvbEntity.Proofs.Connection.Codec
import AvbEntity.Proofs.Discovery.Announcement
import AvbEntity.Proofs.Enumeration.Codec
import AvbEntity.Proofs.Wire.Bits

/-!
# The PDUs of the three sub-protocols are written and read inversely

Discovery, connection management and enumeration write a PDU that their readers give back, and
write back every bit of a PDU that they read, but for those that the PDU says nothing of.

## Main results

* `Discovery.Pdu.inverse`, `Connection.Pdu.inverse`, `Enumeration.Header.inverse`: the codecs
* `codecs_inverse`: the three of them, and the commands on the entity model
-/

namespace AvbEntity

open Layout

/-! ## Discovery -/

namespace Discovery

theorem MessageType.code_of_ofCode {n : UInt8} {m : MessageType} (h : ofCode n = .ok m) :
    m.code = n := by
  unfold ofCode at h
  split at h
  next m' hfind =>
    obtain rfl := Except.ok.inj h
    simpa using List.find?_some hfind
  next => exact nomatch h

namespace Pdu

/-- The octets of the body that say nothing: 49 to 51 and 64 to 67 of the PDU. -/
def IsReserved (j : Nat) : Prop :=
  37 ≤ j ∧ j < 40 ∨ 52 ≤ j ∧ j < 56

theorem retains_body (messageType : MessageType) (validTime : UInt8) (entityId : Eui64) :
    (body messageType validTime entityId).Retains IsReserved := by
  refine .iso (.pair retains_eui64 <| .pair retains_word32 <| .pair retains_word16 <|
    .pair retains_word16 <| .pair retains_word16 <| .pair retains_word16 <| .pair retains_word32 <|
    .pair retains_word32 <| .pair retains_eui64 <| .pair retains_word8 <|
    .pair (retains_reserved fun j hj => ?_) <| .pair retains_word16 <| .pair retains_word16 <|
    .pair retains_eui64 <| retains_reserved fun j hj => ?_) fun _ => rfl
  all_goals
    simp only [IsReserved, width_eui64, width_word32, width_word16, width_word8, width_reserved]
    omega

/-- The bits of a PDU that say nothing: the stream bit, the length, which is fixed, and the
reserved octets. -/
def Ignored (i : Nat) : Prop :=
  i = 8 ∨ 21 ≤ i ∧ i < 32 ∨ 8 * 49 ≤ i ∧ i < 8 * 52 ∨ 8 * 64 ≤ i ∧ i < 8 * 68

theorem inverse : Inverse encode decode received length Ignored where
  length_encode := length_encode
  decode_encode := decode_encode
  encode_decode bs p hdecode := by
    obtain ⟨h, hheader, hbody⟩ := bind_eq_ok.mp hdecode
    obtain ⟨_, hensured, hbody⟩ := bind_eq_ok.mp hbody
    obtain ⟨m, hm, hbody⟩ := bind_eq_ok.mp hbody
    obtain rfl := Except.ok.inj hbody
    have hlong : length ≤ bs.length := ensureLength_eq_ok.mp hensured
    refine ⟨hlong, fun i hi hignored => ?_⟩
    show ((ControlHeader.of .adp m.code h.status controlDataLength h.id).encode ++
      (body m h.status h.id).write ((body m h.status h.id).read _)).bit i = bs.bit i
    rw [MessageType.code_of_ofCode hm]
    unfold Ignored at hignored
    refine ControlHeader.bit_encode_body (retains_body m h.status h.id) hheader controlDataLength
      hlong hi (by omega) (by omega) fun j hj hreserved => ?_
    simp only [IsReserved, ControlHeader.length] at hreserved hj
    omega

end Pdu

end Discovery

/-! ## Connection management -/

namespace Connection

theorem MessageType.code_of_ofCode {n : UInt8} {m : MessageType} (h : ofCode n = .ok m) :
    m.code = n := by
  unfold ofCode at h
  split at h
  next x hx =>
    obtain rfl := Except.ok.inj h
    have hall : Exchange.all.map Exchange.code = List.range 7 := rfl
    have hplace := congrArg (Option.map Exchange.code) hx
    rw [← List.getElem?_map, hall] at hplace
    obtain ⟨hlt, hcode⟩ := List.getElem?_eq_some_iff.mp hplace
    rw [List.getElem_range] at hcode
    apply UInt8.toNat_inj.mp
    have := n.toNat_lt
    split <;> simp only [code, ← hcode, UInt8.toNat_ofNat'] <;> omega
  next => exact nomatch h

namespace Pdu

/-- The octets of the body that say nothing: 54 and 55 of the PDU. -/
def IsReserved (j : Nat) : Prop :=
  42 ≤ j ∧ j < 44

theorem retains_body (messageType : MessageType) (status : Status) (streamId : Eui64) :
    (body messageType status streamId).Retains IsReserved := by
  refine .iso (.pair retains_eui64 <| .pair retains_eui64 <| .pair retains_eui64 <|
    .pair retains_word16 <| .pair retains_word16 <| .pair retains_mac <| .pair retains_word16 <|
    .pair retains_word16 <| .pair retains_word16 <| .pair retains_word16 <|
    retains_reserved fun j hj => ?_) fun _ => rfl
  simp only [IsReserved, width_eui64, width_word16, width_mac]
  omega

/-- The bits of a PDU that say nothing: the stream bit, the length, which is fixed, and the
reserved octets. -/
def Ignored (i : Nat) : Prop :=
  i = 8 ∨ 21 ≤ i ∧ i < 32 ∨ 8 * 54 ≤ i ∧ i < 8 * 56

theorem inverse : Inverse encode decode received length Ignored where
  length_encode := length_encode
  decode_encode := decode_encode
  encode_decode bs p hdecode := by
    obtain ⟨h, m, hheader, hlong, hm, rfl⟩ := decode_eq_ok.mp hdecode
    refine ⟨hlong, fun i hi hignored => ?_⟩
    show ((ControlHeader.of .acmp m.code h.status controlDataLength h.id).encode ++
      (body m ⟨h.status⟩ h.id).write ((body m ⟨h.status⟩ h.id).read _)).bit i = bs.bit i
    rw [MessageType.code_of_ofCode hm]
    unfold Ignored at hignored
    refine ControlHeader.bit_encode_body (retains_body m ⟨h.status⟩ h.id) hheader
      controlDataLength hlong hi (by omega) (by omega) fun j hj hreserved => ?_
    simp only [IsReserved, ControlHeader.length] at hreserved hj
    omega

end Pdu

end Connection

/-! ## Enumeration -/

namespace Enumeration

theorem MessageType.code_of_ofCode {n : UInt8} {m : MessageType} (h : ofCode n = .ok m) :
    m.code = n := by
  unfold ofCode at h
  split at h
  next c hc =>
    obtain rfl := Except.ok.inj h
    have hcode : c.code = n.toNat / 2 := by simpa using List.find?_some hc
    apply UInt8.toNat_inj.mp
    have := n.toNat_lt
    split <;> simp only [code, hcode, UInt8.toNat_ofNat'] <;> omega
  next => exact nomatch h

namespace Header

/-- The stream bit is the only one that the header says nothing of. -/
def Ignored (i : Nat) : Prop :=
  i = 8

theorem inverse : Inverse encode decode received length Ignored where
  length_encode := length_encode
  decode_encode := decode_encode_append
  encode_decode bs p hdecode := by
    obtain ⟨h, hheader, hbody⟩ := bind_eq_ok.mp hdecode
    obtain ⟨_, hensured, hbody⟩ := bind_eq_ok.mp hbody
    obtain ⟨m, hm, hbody⟩ := bind_eq_ok.mp hbody
    obtain rfl := Except.ok.inj hbody
    have hlong : length ≤ bs.length := ensureLength_eq_ok.mp hensured
    refine ⟨hlong, fun i hi hignored => ?_⟩
    have hretains : (eui64.pair word16).Retains fun _ => False :=
      .pair retains_eui64 retains_word16
    have hsequence : bs.drop 20 = (bs.drop ControlHeader.length).drop 8 := by
      rw [List.drop_drop]
      rfl
    show ((ControlHeader.of .aecp m.code h.status h.controlDataLength h.id).encode ++
      (eui64.write (eui64.read (bs.drop 12)) ++ word16.write (word16.read (bs.drop 20)))).bit i =
        bs.bit i
    rw [MessageType.code_of_ofCode hm, hsequence]
    exact ControlHeader.bit_encode_body hretains hheader h.controlDataLength hlong hi hignored
      (.inr (.inr rfl)) fun _ _ => id

end Header

end Enumeration

/-! ## The three sub-protocols -/

section

open Enumeration (CommandType ModelHeader ReadDescriptor)

/-- The PDUs of discovery and connection management, and the header of enumeration, are read back
from what is written, but for the bits of a lifetime, a status or a length that are not sent; and
written back from what is read, but for the bits that they say nothing of. Commands on the entity
model, and the target of a read command, are read back. -/
theorem codecs_inverse :
    Inverse Discovery.Pdu.encode Discovery.Pdu.decode Discovery.Pdu.received 68
        Discovery.Pdu.Ignored ∧
      Inverse Connection.Pdu.encode Connection.Pdu.decode Connection.Pdu.received 56
        Connection.Pdu.Ignored ∧
      Inverse Enumeration.Header.encode Enumeration.Header.decode Enumeration.Header.received 22
        Enumeration.Header.Ignored ∧
      (∀ target controller sequenceId commandType payload rest, ∃ h,
        ModelHeader.decode
            (ModelHeader.command target controller sequenceId commandType payload ++ rest) = .ok h ∧
          h.common.targetEntityId = target ∧ h.common.controllerEntityId = controller ∧
          h.common.sequenceId = sequenceId ∧ h.unsolicited = false ∧
          h.commandType.code.toNat = commandType.code.toNat % 2 ^ 15) ∧
      ∀ target controller sequenceId commandType (t : ReadDescriptor) rest,
        ReadDescriptor.decode (ModelHeader.command target controller sequenceId commandType
          (ReadDescriptor.body.write t) ++ rest) = .ok t := by
  refine ⟨Discovery.Pdu.inverse, Connection.Pdu.inverse, Enumeration.Header.inverse, ?_, ?_⟩
  · intro target controller sequenceId commandType payload rest
    rw [ModelHeader.command, List.append_assoc, List.append_assoc,
      ModelHeader.decode_encode_append]
    refine ⟨_, rfl, rfl, rfl, rfl, rfl, ?_⟩
    show (UInt16.ofNat _).toNat = _
    rw [UInt16.toNat_ofNat']
    omega
  · intro target controller sequenceId commandType t rest
    rw [ModelHeader.command, List.append_assoc, List.append_assoc,
      ReadDescriptor.decode_write_append]

end

end AvbEntity

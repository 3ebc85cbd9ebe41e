import AvbEntity.Connection.Pdu
import AvbEntity.Proofs.Wire.Codec

/-!
# Connection management PDUs on the wire

A connection management PDU is read back from its octets, except that only five bits of its status
are sent. Every PDU that was read has a status of five bits, so what is sent on from it arrives
unchanged.

## Main definitions

* `Connection.Pdu.received`: the PDU as those see it who receive its octets

## Main results

* `Connection.Pdu.decode_encode`: a PDU is read back
* `Connection.Pdu.received_of_decode`: what was read once is read back exactly
* `Connection.Pdu.peekSubtype_of_decode`: what is read as a PDU is recognised by its first octet
-/

namespace AvbEntity

namespace Connection

theorem MessageType.ofCode_code (m : MessageType) : ofCode m.code = .ok m := by
  cases m with
  | command x => cases x <;> rfl
  | response x => cases x <;> rfl

theorem MessageType.code_mod (m : MessageType) : UInt8.ofNat (m.code.toNat % 16) = m.code := by
  cases m with
  | command x => cases x <;> rfl
  | response x => cases x <;> rfl

namespace Pdu

/-- The PDU as those see it who receive its octets: five bits of the status are sent. -/
def received (p : Pdu) : Pdu :=
  { p with status := ⟨.ofNat (p.status.code.toNat % 32)⟩ }

@[simp] theorem received_messageType (p : Pdu) : p.received.messageType = p.messageType := rfl
@[simp] theorem received_sequenceId (p : Pdu) : p.received.sequenceId = p.sequenceId := rfl
@[simp] theorem received_listenerUniqueId (p : Pdu) :
    p.received.listenerUniqueId = p.listenerUniqueId := rfl

/-- A status of five bits arrives unchanged. -/
theorem received_eq_self {p : Pdu} (h : p.status.code.toNat < 32) : p.received = p := by
  have hcode : UInt8.ofNat (p.status.code.toNat % 32) = p.status.code := by
    rw [Nat.mod_eq_of_lt h, UInt8.ofNat_toNat]
  simp only [received, hcode]

theorem received_respond (p : Pdu) {status : Status} (h : status.code.toNat < 32) :
    (p.respond status).received = p.respond status :=
  received_eq_self h

theorem faithful_body (messageType : MessageType) (status : Status) (streamId : Eui64) (p : Pdu)
    (rest : Octets) :
    (body messageType status streamId).read ((body messageType status streamId).write p ++ rest) =
      { p with messageType, status, streamId } := by
  have hwrite : (body messageType status streamId).write p =
      (body messageType status streamId).write { p with messageType, status, streamId } := rfl
  rw [hwrite]
  unfold body
  refine Layout.Faithful.iso ?_ rfl rest
  exact .pair Layout.faithful_eui64 <| .pair Layout.faithful_eui64 <|
    .pair Layout.faithful_eui64 <| .pair Layout.faithful_word16 <|
    .pair Layout.faithful_word16 <| .pair Layout.faithful_mac <| .pair Layout.faithful_word16 <|
    .pair Layout.faithful_word16 <| .pair Layout.faithful_word16 <|
    .pair Layout.faithful_word16 <| Layout.faithful_reserved 2

theorem length_encode (p : Pdu) : p.encode.length = length := by
  rw [encode, List.length_append, ControlHeader.length_encode, Layout.length_write]
  rfl

/-- A PDU is read back from its octets, whatever follows them. -/
theorem decode_encode (p : Pdu) (rest : Octets) : decode (p.encode ++ rest) = .ok p.received := by
  have hlen : ¬ (p.encode ++ rest).length < length := by
    rw [List.length_append, length_encode]
    omega
  have hheader : ControlHeader.decodeExpecting .acmp (p.encode ++ rest) = .ok p.header.masked := by
    rw [encode, List.append_assoc, ControlHeader.decodeExpecting_eq_ok]
    exact ⟨ControlHeader.decode_encode rfl _, ControlHeader.subtype_masked_of ..⟩
  have htype : MessageType.ofCode p.header.masked.messageType = .ok p.messageType := by
    rw [← MessageType.ofCode_code p.messageType, ← MessageType.code_mod p.messageType]
    rfl
  have hbody : (p.encode ++ rest).drop ControlHeader.length =
      (body p.messageType p.status p.streamId).write p ++ rest := by
    rw [encode, List.append_assoc, List.drop_left' (ControlHeader.length_encode _)]
  rw [decode, hheader, ensureLength, if_neg hlen]
  simp only [bind, Except.bind, htype, hbody, pure, Except.pure, Except.ok.injEq]
  exact faithful_body ..

/-- What a PDU is read from: a control header of the sub-protocol, and the body after it. -/
theorem decode_eq_ok {bs : Octets} {p : Pdu} :
    decode bs = .ok p ↔ ∃ h m, ControlHeader.decodeExpecting .acmp bs = .ok h ∧
      length ≤ bs.length ∧ MessageType.ofCode h.messageType = .ok m ∧
      (body m ⟨h.status⟩ h.id).read (bs.drop ControlHeader.length) = p := by
  simp only [decode, bind_eq_ok, ensureLength_eq_ok, exists_const, pure, Except.pure,
    Except.ok.injEq]
  grind

/-- What was read once has a status of five bits, and is read back exactly. -/
theorem received_of_decode {bs : Octets} {p : Pdu} (h : decode bs = .ok p) : p.received = p := by
  obtain ⟨header, m, hheader, -, -, rfl⟩ := decode_eq_ok.mp h
  obtain ⟨-, -, -, rfl⟩ := ControlHeader.decode_eq_ok.mp
    (ControlHeader.decodeExpecting_eq_ok.mp hheader).1
  exact received_eq_self (ControlHeader.status_ofOctets_lt bs)

theorem peekSubtype_of_decode {bs : Octets} {p : Pdu} (h : decode bs = .ok p) :
    peekSubtype bs = .ok .acmp := by
  obtain ⟨header, m, hheader, -, -, rfl⟩ := decode_eq_ok.mp h
  exact ControlHeader.peekSubtype_of_decodeExpecting hheader

end Pdu

end Connection

end AvbEntity

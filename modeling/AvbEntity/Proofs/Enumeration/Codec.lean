import AvbEntity.Enumeration.Pdu
import AvbEntity.Proofs.Wire.Layout

/-!
# Enumeration PDUs on the wire

The header of a command on the entity model is read back from its octets, except that only 5 bits
of the status, 11 of the length of the control data and 15 of the command type are sent; and so is
the target of a read command.

## Main definitions

* `Header.received`: the header as those see it who receive its octets

## Main results

* `Header.decode_encode_append`, `Header.decode_encode`: the common header is read back
* `ModelHeader.decode_encode_append`, `ModelHeader.decode_write`: the header of a command on the
  entity model is read back
* `ReadDescriptor.decode_write_append`: the target of a read command is read back
-/

namespace AvbEntity.Enumeration

theorem MessageType.ofCode_code (m : MessageType) : ofCode m.code = .ok m := by
  cases m with
  | command c => cases c <;> rfl
  | response c => cases c <;> rfl

theorem MessageType.code_mod (m : MessageType) : UInt8.ofNat (m.code.toNat % 16) = m.code := by
  cases m with
  | command c => cases c <;> rfl
  | response c => cases c <;> rfl

namespace Header

theorem length_encode (h : Header) : h.encode.length = length := by
  rw [encode, List.length_append, ControlHeader.length_encode, List.length_append,
    Layout.length_write, Layout.length_write]
  rfl

/-- The header as those see it who receive its octets: five bits of the status are sent, and eleven
of the length. -/
def received (h : Header) : Header :=
  { h with
    status := .ofNat (h.status.toNat % 32)
    controlDataLength := .ofNat (h.controlDataLength.toNat % 2048) }

/-- A status of five bits and a length of eleven arrive unchanged. -/
theorem received_eq_self {h : Header} (hstatus : h.status.toNat < 32)
    (hlength : h.controlDataLength.toNat < 2048) : h.received = h := by
  have hstatus' : UInt8.ofNat (h.status.toNat % 32) = h.status := by
    rw [Nat.mod_eq_of_lt hstatus, UInt8.ofNat_toNat]
  have hlength' : UInt16.ofNat (h.controlDataLength.toNat % 2048) = h.controlDataLength := by
    rw [Nat.mod_eq_of_lt hlength, UInt16.ofNat_toNat]
  rw [received, hstatus', hlength']

/-- The common header is read back as it was sent, whatever follows. -/
theorem decode_encode_append (h : Header) (rest : Octets) :
    decode (h.encode ++ rest) = .ok h.received := by
  let control := ControlHeader.of .aecp h.messageType.code h.status h.controlDataLength
    h.targetEntityId
  have hcontrol : ControlHeader.decodeExpecting .aecp (h.encode ++ rest) = .ok control.masked := by
    rw [encode, List.append_assoc, ControlHeader.decodeExpecting_eq_ok]
    exact ⟨ControlHeader.decode_encode rfl _, ControlHeader.subtype_masked_of ..⟩
  have hlong : ensureLength (h.encode ++ rest) length = .ok () := by
    rw [ensureLength_eq_ok, List.length_append, length_encode]
    exact Nat.le_add_right ..
  have htype : MessageType.ofCode control.masked.messageType = .ok h.messageType := by
    rw [← MessageType.ofCode_code h.messageType, ← MessageType.code_mod h.messageType]
    rfl
  have hcontroller : (h.encode ++ rest).drop 12 =
      Layout.eui64.write h.controllerEntityId ++ (Layout.word16.write h.sequenceId ++ rest) := by
    rw [encode, List.append_assoc, List.append_assoc]
    exact List.drop_left' (ControlHeader.length_encode _)
  have hsequence : (h.encode ++ rest).drop 20 = Layout.word16.write h.sequenceId ++ rest := by
    have hdrop := Layout.drop_write_append Layout.eui64 h.controllerEntityId
      (Layout.word16.write h.sequenceId ++ rest)
    rw [← hcontroller, List.drop_drop] at hdrop
    exact hdrop
  simp only [decode, hcontrol, hlong, htype, bind_ok, hcontroller, hsequence,
    Layout.faithful_eui64 _ _, Layout.faithful_word16 _ _]
  rfl

/-- The common header is read back, whatever follows. -/
theorem decode_encode {h : Header} (hstatus : h.status.toNat < 32)
    (hlength : h.controlDataLength.toNat < 2048) (rest : Octets) :
    decode (h.encode ++ rest) = .ok h := by
  rw [decode_encode_append, received_eq_self hstatus hlength]

end Header

namespace ModelHeader

/-- The header in front of a payload is read back as it was sent. -/
theorem decode_encode_append (h : Header) (t : CommandType) (payload : Octets) :
    decode (h.encode ++ (Layout.word16.write t.word ++ payload)) =
      .ok { common := h.received, commandType := ⟨t.word⟩ } := by
  have hlong : ensureLength (h.encode ++ (Layout.word16.write t.word ++ payload)) length =
      .ok () := by
    rw [ensureLength_eq_ok, List.length_append, Header.length_encode, List.length_append,
      Layout.length_write, ← Nat.add_assoc]
    exact Nat.le_add_right ..
  have hlt : t.word.toNat < 0x8000 := by
    rw [CommandType.word, UInt16.toNat_ofNat']
    omega
  have hword : Layout.number 2 ((h.encode ++ (Layout.word16.write t.word ++ payload)).drop 22) =
      t.word.toNat := by
    have hdrop : (h.encode ++ (Layout.word16.write t.word ++ payload)).drop 22 =
        Layout.word16.write t.word ++ payload := List.drop_left' h.length_encode
    rw [hdrop]
    simp only [Layout.word16, Layout.number_ofNat_append]
    omega
  simp only [decode, Header.decode_encode_append, hlong, bind_ok, hword,
    Nat.mod_eq_of_lt hlt, UInt16.ofNat_toNat, decide_eq_false (Nat.not_le.mpr hlt)]
  rfl

/-- The octets of the header in front of a payload. -/
theorem decode_write {h : Header} (hstatus : h.status.toNat < 32)
    (hlength : h.controlDataLength.toNat < 2048) {t : CommandType} (ht : t.code.toNat < 0x8000)
    (payload : Octets) :
    decode (h.encode ++ (Layout.word16.write t.word ++ payload)) =
      .ok { common := h, commandType := t } := by
  have hword : t.word = t.code := by
    rw [CommandType.word, Nat.mod_eq_of_lt ht, UInt16.ofNat_toNat]
  rw [decode_encode_append, Header.received_eq_self hstatus hlength, hword]

theorem drop_length (h : Header) (t : CommandType) (payload : Octets) :
    (h.encode ++ (Layout.word16.write t.word ++ payload)).drop length = payload := by
  rw [← List.append_assoc, List.drop_left']
  rw [List.length_append, Header.length_encode, Layout.length_write]
  rfl

/-- A response of no more than 524 octets of control data says how long it is. -/
theorem controlDataLength_lt {payload : Octets} (h : payload.length ≤ 512) :
    (controlDataLength payload).toNat < 2048 := by
  rw [controlDataLength, length, ControlHeader.length, UInt16.toNat_ofNat']
  omega

end ModelHeader

namespace ReadDescriptor

theorem faithful_body : body.Faithful :=
  fun _ => (Layout.faithful_word16.pair <| (Layout.faithful_reserved 2).pair <|
    Layout.faithful_word16.pair Layout.faithful_word16).iso rfl

theorem length_write_body (t : ReadDescriptor) : (body.write t).length = 8 :=
  body.length_write t

/-- The target of a read command is read back, whatever follows. -/
theorem decode_write_append (h : Header) (c : CommandType) (t : ReadDescriptor) (rest : Octets) :
    decode (h.encode ++ (Layout.word16.write c.word ++ (body.write t ++ rest))) = .ok t := by
  have hlong : ensureLength
      (h.encode ++ (Layout.word16.write c.word ++ (body.write t ++ rest))) length = .ok () := by
    rw [ensureLength_eq_ok, List.length_append, Header.length_encode, List.length_append,
      Layout.length_write, List.length_append, length_write_body, ← Nat.add_assoc, ← Nat.add_assoc]
    exact Nat.le_add_right ..
  rw [decode, hlong, bind_ok, ModelHeader.drop_length, faithful_body]
  rfl

/-- The target of a read command is read back. -/
theorem decode_write (h : Header) (c : CommandType) (t : ReadDescriptor) :
    decode (h.encode ++ (Layout.word16.write c.word ++ body.write t)) = .ok t := by
  have hread := decode_write_append h c t []
  rwa [List.append_nil] at hread

end ReadDescriptor

end AvbEntity.Enumeration

import AvbEntity.Wire.Layout

/-!
# The control header

The three sub-protocols share a header of twelve octets: a bit that marks control data and a
subtype of 7 bits; a stream bit, a version of 3 bits and a message type of 4 bits; a status of
5 bits and a length of 11 bits; and an identifier.

## Main definitions

* `Subtype`: discovery, enumeration or connection management
* `ControlHeader`, `ControlHeader.encode`, `ControlHeader.decode`: the header and its octets
* `ControlHeader.decodeExpecting`: the header of a PDU of a known sub-protocol
* `peekSubtype`: the sub-protocol that a payload belongs to, by its first octet
-/

namespace AvbEntity

/-- The sub-protocols of control data. -/
inductive Subtype where
  | adp
  | aecp
  | acmp
  deriving DecidableEq

namespace Subtype

/-- The number of the sub-protocol. -/
def code : Subtype → UInt8
  | .adp => 0x7A
  | .aecp => 0x7B
  | .acmp => 0x7C

/-- The sub-protocol of a number. -/
def ofCode? (n : UInt8) : Option Subtype :=
  [adp, aecp, acmp].find? (·.code == n)

end Subtype

/-- The fields of a control header. Encoding keeps the low bits of a field that is too wide. -/
structure ControlHeader where
  /-- The sub-protocol, 7 bits. -/
  subtype : UInt8
  streamValid : Bool := false
  /-- The protocol version, 3 bits. -/
  version : UInt8 := 0
  /-- The message type, 4 bits. -/
  messageType : UInt8
  /-- The status, 5 bits; in discovery the valid time. -/
  status : UInt8
  /-- The length of the control data, 11 bits. -/
  controlDataLength : UInt16
  /-- The entity in discovery, the target in enumeration, the stream in connection management. -/
  id : Eui64
  deriving DecidableEq

namespace ControlHeader

/-- The number of octets of the header. -/
def length : Nat :=
  12

/-- The version that is understood. -/
def supportedVersion : UInt8 :=
  0

/-- The header of the supported version for a sub-protocol. -/
def of (subtype : Subtype) (messageType status : UInt8) (controlDataLength : UInt16)
    (id : Eui64) : ControlHeader :=
  { subtype := subtype.code, messageType, status, controlDataLength, id }

/-- The octets of the header. -/
def encode (h : ControlHeader) : Octets :=
  UInt8.ofNat (128 + h.subtype.toNat % 128) ::
  UInt8.ofNat (h.streamValid.toNat * 128 + h.version.toNat % 8 * 16 + h.messageType.toNat % 16) ::
  (Octets.ofNat 2 (h.status.toNat % 32 * 2048 + h.controlDataLength.toNat % 2048) ++
    Layout.eui64.write h.id)

/-- The fields of twelve octets, whatever the first bit and the version are. -/
def ofOctets (bs : Octets) : ControlHeader :=
  let first := Layout.number 1 bs
  let second := Layout.number 1 (bs.drop 1)
  let word := Layout.number 2 (bs.drop 2)
  { subtype := .ofNat (first % 128)
    streamValid := 128 ≤ second
    version := .ofNat (second / 16 % 8)
    messageType := .ofNat (second % 16)
    status := .ofNat (word / 2048)
    controlDataLength := .ofNat (word % 2048)
    id := Layout.eui64.read (bs.drop 4) }

/-- The header at the start of a payload. -/
def decode (bs : Octets) : Except DecodeError ControlHeader := do
  ensureLength bs length
  if Layout.number 1 bs < 128 then throw .notControl
  let h := ofOctets bs
  if h.version != supportedVersion then throw (.unsupportedVersion h.version)
  return h

/-- The sub-protocol that the header names. -/
def subtype? (h : ControlHeader) : Option Subtype :=
  Subtype.ofCode? h.subtype

/-- The header of a payload that has to belong to the sub-protocol. -/
def decodeExpecting (subtype : Subtype) (bs : Octets) : Except DecodeError ControlHeader := do
  let h ← decode bs
  if h.subtype != subtype.code then throw (.unexpectedSubtype h.subtype)
  return h

end ControlHeader

/-- The sub-protocol of a payload, by its first octet. -/
def peekSubtype : Octets → Except DecodeError Subtype
  | [] => .error (.truncated 1 0)
  | first :: _ =>
    if first.toNat < 128 then .error .notControl
    else
      let n := UInt8.ofNat (first.toNat % 128)
      match Subtype.ofCode? n with
      | some subtype => .ok subtype
      | none => .error (.unexpectedSubtype n)

end AvbEntity

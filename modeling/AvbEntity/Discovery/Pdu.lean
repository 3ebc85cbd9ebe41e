import AvbEntity.Wire.Control

/-!
# Discovery PDUs

An entity announces itself, and its leaving, by a PDU of 68 octets; the same PDU asks for such
announcements.

## Main definitions

* `Discovery.MessageType`: available, departing or discover
* `Discovery.Pdu`, `Pdu.encode`, `Pdu.decode`: the PDU and its octets
* `Discovery.Pdu.discover`: the request to every entity
-/

namespace AvbEntity.Discovery

/-- What a discovery PDU says. -/
inductive MessageType where
  /-- The entity is present. -/
  | available
  /-- The entity is leaving. -/
  | departing
  /-- Entities are asked to announce themselves. -/
  | discover
  deriving DecidableEq

namespace MessageType

/-- The number of the message type. -/
def code : MessageType → UInt8
  | .available => 0
  | .departing => 1
  | .discover => 2

/-- The message type of a number. -/
def ofCode (n : UInt8) : Except DecodeError MessageType :=
  match [available, departing, discover].find? (·.code == n) with
  | some m => .ok m
  | none => .error (.unknownMessageType n)

end MessageType

/-- A discovery PDU. -/
structure Pdu where
  messageType : MessageType
  /-- The lifetime of the announcement in units of two seconds, 5 bits on the wire. -/
  validTime : UInt8 := 0
  entityId : Eui64 := .zero
  entityModelId : Eui64 := .zero
  entityCapabilities : UInt32 := 0
  talkerStreamSources : UInt16 := 0
  talkerCapabilities : UInt16 := 0
  listenerStreamSinks : UInt16 := 0
  listenerCapabilities : UInt16 := 0
  controllerCapabilities : UInt32 := 0
  availableIndex : UInt32 := 0
  gptpGrandmasterId : Eui64 := .zero
  gptpDomainNumber : UInt8 := 0
  identifyControlIndex : UInt16 := 0
  interfaceIndex : UInt16 := 0
  associationId : Eui64 := .zero
  deriving DecidableEq

namespace Pdu

/-- The request to every entity to announce itself. -/
def discover : Pdu :=
  { messageType := .discover }

/-- The length of the control data of every discovery PDU. -/
def controlDataLength : UInt16 :=
  56

/-- The fields after the control header, read into a PDU that has the header's. -/
def body (messageType : MessageType) (validTime : UInt8) (entityId : Eui64) : Layout Pdu :=
  .iso (Layout.eui64.pair <| Layout.word32.pair <| Layout.word16.pair <| Layout.word16.pair <|
      Layout.word16.pair <| Layout.word16.pair <| Layout.word32.pair <| Layout.word32.pair <|
      Layout.eui64.pair <| Layout.word8.pair <| (Layout.reserved 3).pair <| Layout.word16.pair <|
      Layout.word16.pair <| Layout.eui64.pair <| Layout.reserved 4)
    (fun (entityModelId, entityCapabilities, talkerStreamSources, talkerCapabilities,
        listenerStreamSinks, listenerCapabilities, controllerCapabilities, availableIndex,
        gptpGrandmasterId, gptpDomainNumber, _, identifyControlIndex, interfaceIndex,
        associationId, _) =>
      { messageType, validTime, entityId, entityModelId, entityCapabilities, talkerStreamSources,
        talkerCapabilities, listenerStreamSinks, listenerCapabilities, controllerCapabilities,
        availableIndex, gptpGrandmasterId, gptpDomainNumber, identifyControlIndex,
        interfaceIndex, associationId })
    (fun p => (p.entityModelId, p.entityCapabilities, p.talkerStreamSources,
      p.talkerCapabilities, p.listenerStreamSinks, p.listenerCapabilities,
      p.controllerCapabilities, p.availableIndex, p.gptpGrandmasterId, p.gptpDomainNumber, (),
      p.identifyControlIndex, p.interfaceIndex, p.associationId, ()))

/-- The number of octets of a discovery PDU. -/
def length : Nat :=
  68

/-- The control header of the PDU. -/
def header (p : Pdu) : ControlHeader :=
  .of .adp p.messageType.code p.validTime controlDataLength p.entityId

/-- The octets of the PDU. -/
def encode (p : Pdu) : Octets :=
  p.header.encode ++ (body p.messageType p.validTime p.entityId).write p

/-- The PDU at the start of a payload. -/
def decode (bs : Octets) : Except DecodeError Pdu := do
  let h ← ControlHeader.decodeExpecting .adp bs
  ensureLength bs length
  let messageType ← MessageType.ofCode h.messageType
  return (body messageType h.status h.id).read (bs.drop ControlHeader.length)

end Pdu

end AvbEntity.Discovery

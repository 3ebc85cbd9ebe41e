import AvbEntity.Wire.Control

/-!
# Enumeration and control PDUs

A controller reads an entity's description by commands, each answered by one response. The PDUs
have a common header of 22 octets; in commands on the entity model a command type of 15 bits
follows, behind a bit that marks unsolicited notifications.

## Main definitions

* `Enumeration.MessageClass`, `Enumeration.MessageType`: the classes of commands, and the command
  or response of a class
* `Enumeration.CommandType`: a command on the entity model
* `Enumeration.Header`, `Enumeration.ModelHeader`: the common header, and that of a command on the
  entity model
* `Enumeration.ReadDescriptor`: the target of a read command
* `ModelHeader.respond`, `Header.echo`: the octets of a response with a payload, and of one that
  repeats the command
-/

namespace AvbEntity.Enumeration

/-- The classes of commands. -/
inductive MessageClass where
  /-- Commands on the entity model. -/
  | aem
  | addressAccess
  | avc
  | vendorUnique
  | hdcpApm
  | extended
  deriving DecidableEq

namespace MessageClass

/-- The classes in the order of their numbers. -/
def all : List MessageClass :=
  [aem, addressAccess, avc, vendorUnique, hdcpApm, extended]

/-- The number of the class. -/
def code : MessageClass → Nat
  | .aem => 0
  | .addressAccess => 1
  | .avc => 2
  | .vendorUnique => 3
  | .hdcpApm => 4
  | .extended => 7

end MessageClass

/-- The command or the response of a class. -/
inductive MessageType where
  | command (messageClass : MessageClass)
  | response (messageClass : MessageClass)
  deriving DecidableEq

namespace MessageType

/-- Commands have the even numbers, and each is followed by its response. -/
def code : MessageType → UInt8
  | .command c => .ofNat (2 * c.code)
  | .response c => .ofNat (2 * c.code + 1)

/-- The message type of a number. -/
def ofCode (n : UInt8) : Except DecodeError MessageType :=
  match MessageClass.all.find? (·.code == n.toNat / 2) with
  | some c => .ok (if n.toNat % 2 = 0 then .command c else .response c)
  | none => .error (.unknownMessageType n)

/-- The class of the message. -/
def messageClass : MessageType → MessageClass
  | .command c | .response c => c

/-- The message is a command. -/
def isCommand : MessageType → Bool
  | .command _ => true
  | .response _ => false

/-- The response of the same class. -/
def toResponse (m : MessageType) : MessageType :=
  .response m.messageClass

end MessageType

/-- How a command was answered. -/
structure Status where
  code : UInt8
  deriving DecidableEq

namespace Status

def success : Status := ⟨0⟩
def notImplemented : Status := ⟨1⟩
def noSuchDescriptor : Status := ⟨2⟩
def notSupported : Status := ⟨11⟩

end Status

/-- A command on the entity model, 15 bits on the wire. -/
structure CommandType where
  code : UInt16
  deriving DecidableEq

namespace CommandType

def entityAvailable : CommandType := ⟨2⟩
def readDescriptor : CommandType := ⟨4⟩

/-- The name of the command, or its number where it has no name. -/
def text (t : CommandType) : String :=
  match t.code.toNat with
  | 0 => "ACQUIRE_ENTITY"
  | 1 => "LOCK_ENTITY"
  | 2 => "ENTITY_AVAILABLE"
  | 3 => "CONTROLLER_AVAILABLE"
  | 4 => "READ_DESCRIPTOR"
  | 5 => "WRITE_DESCRIPTOR"
  | 6 => "SET_CONFIGURATION"
  | 7 => "GET_CONFIGURATION"
  | n => "command 0x" ++ .ofList (Text.Hex.padded 4 n)

/-- The command type on the wire, without the bit in front of it. -/
def word (t : CommandType) : UInt16 :=
  .ofNat (t.code.toNat % 0x8000)

end CommandType

/-- The header common to all enumeration PDUs. -/
structure Header where
  messageType : MessageType
  status : UInt8 := 0
  controlDataLength : UInt16 := 0
  targetEntityId : Eui64 := .zero
  controllerEntityId : Eui64 := .zero
  sequenceId : UInt16 := 0
  deriving DecidableEq

namespace Header

/-- The number of octets of the header. -/
def length : Nat :=
  22

/-- The octets of the header. -/
def encode (h : Header) : Octets :=
  (ControlHeader.of .aecp h.messageType.code h.status h.controlDataLength
    h.targetEntityId).encode ++
  (Layout.eui64.write h.controllerEntityId ++ Layout.word16.write h.sequenceId)

/-- The header at the start of a payload. -/
def decode (bs : Octets) : Except DecodeError Header := do
  let h ← ControlHeader.decodeExpecting .aecp bs
  ensureLength bs length
  let messageType ← MessageType.ofCode h.messageType
  return {
    messageType
    status := h.status
    controlDataLength := h.controlDataLength
    targetEntityId := h.id
    controllerEntityId := Layout.eui64.read (bs.drop 12)
    sequenceId := Layout.word16.read (bs.drop 20) }

/-- The length of a response that repeats a command received as `received` octets: as long as the
command says it is, but no shorter than the header and no longer than what was received. -/
def echoLength (h : Header) (received : Nat) : Nat :=
  max length (min (ControlHeader.length + h.controlDataLength.toNat) (max received length))

/-- The response that repeats the command `request`, whose header is `h`. -/
def echo (h : Header) (request : Octets) (status : UInt8) : Octets :=
  let total := h.echoLength request.length
  let response := {
    h with
    messageType := h.messageType.toResponse
    status
    controlDataLength := .ofNat (total - ControlHeader.length) }
  response.encode ++ if total ≤ request.length then (request.take total).drop length else []

end Header

/-- The header of a command on the entity model, or of its response. -/
structure ModelHeader where
  common : Header
  unsolicited : Bool := false
  commandType : CommandType
  deriving DecidableEq

namespace ModelHeader

/-- The number of octets of the header. -/
def length : Nat :=
  24

/-- The header at the start of a payload. -/
def decode (bs : Octets) : Except DecodeError ModelHeader := do
  let common ← Header.decode bs
  ensureLength bs length
  let word := Layout.number 2 (bs.drop 22)
  return { common, unsolicited := 0x8000 ≤ word, commandType := ⟨.ofNat (word % 0x8000)⟩ }

/-- The length of the control data in front of `payload` further octets. -/
def controlDataLength (payload : Octets) : UInt16 :=
  .ofNat (length - ControlHeader.length + payload.length)

/-- The octets of a command on the entity model. -/
def command (targetEntityId controllerEntityId : Eui64) (sequenceId : UInt16)
    (commandType : CommandType) (payload : Octets) : Octets :=
  let header : Header := {
    messageType := .command .aem
    controlDataLength := controlDataLength payload
    targetEntityId
    controllerEntityId
    sequenceId }
  header.encode ++ (Layout.word16.write commandType.word ++ payload)

/-- The response to a command, with a payload after the command type. -/
def respond (request : ModelHeader) (status : Status) (payload : Octets) : Octets :=
  let header := {
    request.common with
    messageType := .response .aem
    status := status.code
    controlDataLength := controlDataLength payload }
  header.encode ++ (Layout.word16.write request.commandType.word ++ payload)

end ModelHeader

/-- The target of a read command. -/
structure ReadDescriptor where
  configurationIndex : UInt16
  descriptorType : UInt16
  descriptorIndex : UInt16
  deriving DecidableEq

namespace ReadDescriptor

/-- The number of octets of a read command, with its header. -/
def length : Nat :=
  32

/-- The body of the command: the configuration, two octets without meaning, the descriptor. -/
def body : Layout ReadDescriptor :=
  .iso (Layout.word16.pair <| (Layout.reserved 2).pair <| Layout.word16.pair Layout.word16)
    (fun (configurationIndex, _, descriptorType, descriptorIndex) =>
      { configurationIndex, descriptorType, descriptorIndex })
    (fun c => (c.configurationIndex, (), c.descriptorType, c.descriptorIndex))

/-- The target named by a command of the entity model. -/
def decode (bs : Octets) : Except DecodeError ReadDescriptor := do
  ensureLength bs length
  return body.read (bs.drop ModelHeader.length)

end ReadDescriptor

end AvbEntity.Enumeration

import AvbEntity.Time
import AvbEntity.Wire.Control

/-!
# Connection management PDUs

A controller asks a listener to connect to a talker, and the listener asks the talker in turn.
Every message, command or response, has the same layout of 56 octets.

## Main definitions

* `Connection.Exchange`: what is asked for
* `Connection.MessageType`: the command or the response of an exchange
* `Connection.Status`: how a command was answered
* `Connection.Pdu`, `Pdu.encode`, `Pdu.decode`: the PDU and its octets
* `Connection.Pdu.respond`: the response that repeats a command
-/

namespace AvbEntity.Connection

/-- What a command asks for; `Tx` is asked of a talker and `Rx` of a listener. -/
inductive Exchange where
  | connectTx
  | disconnectTx
  | getTxState
  | connectRx
  | disconnectRx
  | getRxState
  | getTxConnection
  deriving DecidableEq

namespace Exchange

/-- The exchanges in the order of their numbers. -/
def all : List Exchange :=
  [connectTx, disconnectTx, getTxState, connectRx, disconnectRx, getRxState, getTxConnection]

/-- The position of the exchange. -/
def code : Exchange → Nat
  | .connectTx => 0
  | .disconnectTx => 1
  | .getTxState => 2
  | .connectRx => 3
  | .disconnectRx => 4
  | .getRxState => 5
  | .getTxConnection => 6

/-- How long the answer to a command may take. -/
def timeout : Exchange → Time
  | .connectTx => 2000
  | .disconnectTx => 200
  | .getTxState => 200
  | .connectRx => 4500
  | .disconnectRx => 500
  | .getRxState => 200
  | .getTxConnection => 200

end Exchange

/-- The command or the response of an exchange. -/
inductive MessageType where
  | command (exchange : Exchange)
  | response (exchange : Exchange)
  deriving DecidableEq

namespace MessageType

/-- Commands have the even numbers, and each is followed by its response. -/
def code : MessageType → UInt8
  | .command x => .ofNat (2 * x.code)
  | .response x => .ofNat (2 * x.code + 1)

/-- The message type of a number. -/
def ofCode (n : UInt8) : Except DecodeError MessageType :=
  match Exchange.all[n.toNat / 2]? with
  | some x => .ok (if n.toNat % 2 = 0 then .command x else .response x)
  | none => .error (.unknownMessageType n)

/-- What is asked for or answered. -/
def exchange : MessageType → Exchange
  | .command x | .response x => x

/-- The response of the same exchange. -/
def toResponse (m : MessageType) : MessageType :=
  .response m.exchange

/-- Messages that a talker acts on. -/
def isForTalker : MessageType → Bool
  | .command .connectTx | .command .disconnectTx | .command .getTxState
  | .command .getTxConnection => true
  | _ => false

/-- Messages that a listener acts on. -/
def isForListener : MessageType → Bool
  | .response .connectTx | .response .disconnectTx | .command .connectRx
  | .command .disconnectRx | .command .getRxState => true
  | _ => false

/-- How long the answer may take; nothing answers a response. -/
def timeout : MessageType → Time
  | .command x => x.timeout
  | .response _ => 0

end MessageType

/-- How a command was answered, 5 bits on the wire. -/
structure Status where
  code : UInt8
  deriving DecidableEq

namespace Status

def success : Status := ⟨0⟩
def listenerUnknownId : Status := ⟨1⟩
def talkerUnknownId : Status := ⟨2⟩
def listenerTalkerTimeout : Status := ⟨7⟩
def listenerExclusive : Status := ⟨8⟩
def notConnected : Status := ⟨10⟩
def noSuchConnection : Status := ⟨11⟩
def couldNotSendMessage : Status := ⟨12⟩
def talkerMisbehaving : Status := ⟨13⟩
def listenerMisbehaving : Status := ⟨14⟩

/-- The command was carried out. -/
def isSuccess (s : Status) : Bool :=
  s == success

/-- The name of the status in the standard. -/
def name (s : Status) : String :=
  match s.code.toNat with
  | 0 => "SUCCESS"
  | 1 => "LISTENER_UNKNOWN_ID"
  | 2 => "TALKER_UNKNOWN_ID"
  | 3 => "TALKER_DEST_MAC_FAIL"
  | 4 => "TALKER_NO_STREAM_INDEX"
  | 5 => "TALKER_NO_BANDWIDTH"
  | 6 => "TALKER_EXCLUSIVE"
  | 7 => "LISTENER_TALKER_TIMEOUT"
  | 8 => "LISTENER_EXCLUSIVE"
  | 9 => "STATE_UNAVAILABLE"
  | 10 => "NOT_CONNECTED"
  | 11 => "NO_SUCH_CONNECTION"
  | 12 => "COULD_NOT_SEND_MESSAGE"
  | 13 => "TALKER_MISBEHAVING"
  | 14 => "LISTENER_MISBEHAVING"
  | 16 => "CONTROLLER_NOT_AUTHORIZED"
  | 17 => "INCOMPATIBLE_REQUEST"
  | 31 => "NOT_SUPPORTED"
  | _ => "RESERVED"

/-- The name with the number in parentheses. -/
def text (s : Status) : String :=
  s.name ++ "(" ++ toString s.code.toNat ++ ")"

end Status

/-- A connection management PDU. -/
structure Pdu where
  messageType : MessageType
  status : Status := .success
  streamId : Eui64 := .zero
  controllerEntityId : Eui64 := .zero
  talkerEntityId : Eui64 := .zero
  listenerEntityId : Eui64 := .zero
  talkerUniqueId : UInt16 := 0
  listenerUniqueId : UInt16 := 0
  streamDestMac : Mac := .zero
  connectionCount : UInt16 := 0
  sequenceId : UInt16 := 0
  flags : UInt16 := 0
  streamVlanId : UInt16 := 0
  deriving DecidableEq

namespace Pdu

/-- The command turned into its response. -/
def respond (p : Pdu) (status : Status) : Pdu :=
  { p with messageType := p.messageType.toResponse, status }

/-- The length of the control data of every connection management PDU. -/
def controlDataLength : UInt16 :=
  44

/-- The fields after the control header, read into a PDU that has the header's. -/
def body (messageType : MessageType) (status : Status) (streamId : Eui64) : Layout Pdu :=
  .iso (Layout.eui64.pair <| Layout.eui64.pair <| Layout.eui64.pair <| Layout.word16.pair <|
      Layout.word16.pair <| Layout.mac.pair <| Layout.word16.pair <| Layout.word16.pair <|
      Layout.word16.pair <| Layout.word16.pair <| Layout.reserved 2)
    (fun (controllerEntityId, talkerEntityId, listenerEntityId, talkerUniqueId,
        listenerUniqueId, streamDestMac, connectionCount, sequenceId, flags, streamVlanId, _) =>
      { messageType, status, streamId, controllerEntityId, talkerEntityId, listenerEntityId,
        talkerUniqueId, listenerUniqueId, streamDestMac, connectionCount, sequenceId, flags,
        streamVlanId })
    (fun p => (p.controllerEntityId, p.talkerEntityId, p.listenerEntityId, p.talkerUniqueId,
      p.listenerUniqueId, p.streamDestMac, p.connectionCount, p.sequenceId, p.flags,
      p.streamVlanId, ()))

/-- The number of octets of a connection management PDU. -/
def length : Nat :=
  56

/-- The control header of the PDU. -/
def header (p : Pdu) : ControlHeader :=
  .of .acmp p.messageType.code p.status.code controlDataLength p.streamId

/-- The octets of the PDU. -/
def encode (p : Pdu) : Octets :=
  p.header.encode ++ (body p.messageType p.status p.streamId).write p

/-- The PDU at the start of a payload. -/
def decode (bs : Octets) : Except DecodeError Pdu := do
  let h ← ControlHeader.decodeExpecting .acmp bs
  ensureLength bs length
  let messageType ← MessageType.ofCode h.messageType
  return (body messageType ⟨h.status⟩ h.id).read (bs.drop ControlHeader.length)

end Pdu

end AvbEntity.Connection

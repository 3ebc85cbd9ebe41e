import AvbEntity.Connection.Pdu
import AvbEntity.Model.Basic

/-!
# The talker

The talker answers every command on the stream outputs of the current configuration at once, and
keeps nothing but their lists of listeners.

## Main definitions

* `Talker.listener`: the stream input that a command names
* `Talker.connect`, `Talker.disconnect`, `Talker.connection`: the answers to the commands
* `Talker.respond`: the answer to a command, and the model after it
-/

namespace AvbEntity.Connection.Talker

/-- The stream input that a command names. -/
def listener (p : Pdu) : Listener :=
  ⟨p.listenerEntityId, p.listenerUniqueId⟩

/-- The answer with the stream of a source and the number of its connections. -/
def describe (p : Pdu) (s : Source) : Pdu :=
  { p with
    streamId := s.streamId
    streamDestMac := s.streamDestMac
    streamVlanId := s.streamVlanId
    connectionCount := s.connectionCount }

/-- A listener connected, unless the source has all the connections that it can count. -/
def connect (s : Source) (p : Pdu) : Source × Pdu :=
  match s.connect (listener p) with
  | some s => (s, describe (p.respond .success) s)
  | none => (s, describe (p.respond .talkerMisbehaving) s)

/-- A listener disconnected; one that was not connected is no fault. -/
def disconnect (s : Source) (p : Pdu) : Source × Pdu :=
  let s := (s.disconnect (listener p)).getD s
  (s, { p.respond .success with connectionCount := s.connectionCount })

/-- The connection whose number the command has in place of the count. -/
def connection (s : Source) (p : Pdu) : Pdu :=
  match s.connection? p.connectionCount with
  | some l =>
    { describe (p.respond .success) s with
      listenerEntityId := l.entityId
      listenerUniqueId := l.uniqueId }
  | none => p.respond .noSuchConnection

/-- A command carried out on the stream output that it names; there is no answer to other PDUs. -/
def act (s : Source) (p : Pdu) : Option (Source × Pdu) :=
  match p.messageType with
  | .command .connectTx => some (connect s p)
  | .command .disconnectTx => some (disconnect s p)
  | .command .getTxState => some (s, describe (p.respond .success) s)
  | .command .getTxConnection => some (s, connection s p)
  | _ => none

/-- A command handled: the model after it, and the answer. -/
def respond (m : Model) (p : Pdu) : Model × List Pdu :=
  match m.source? m.current p.talkerUniqueId with
  | none => (m, if p.messageType.isForTalker then [p.respond .talkerUnknownId] else [])
  | some s =>
    match act s p with
    | some (s, answer) => (m.modifySource m.current p.talkerUniqueId fun _ => s, [answer])
    | none => (m, [])

end AvbEntity.Connection.Talker

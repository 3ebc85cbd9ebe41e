import AvbEntity.Enumeration.Pdu
import AvbEntity.Model.Basic

/-!
# The responder

The responder answers the commands of controllers. It confirms that the entity is there and serves
the descriptors of the model; every other command is repeated as not implemented.

## Main definitions

* `Responder.readDescriptor`: the answer to a read command
* `Responder.answer`: the answer to a PDU
* `Responder`, `Responder.served`, `Responder.handle`: the count of answered commands, and one PDU
  handled
-/

namespace AvbEntity.Enumeration

/-- The state of the responder. -/
structure Responder where
  /-- The number of commands answered, as a word. -/
  count : UInt64 := 0
  deriving DecidableEq

namespace Responder

/-- The number of commands answered. -/
def served (r : Responder) : Nat :=
  r.count.toNat

/-- The configuration that an answer names: the ENTITY and the CONFIGURATION belong to none, and
zero stands for it. -/
def answerConfiguration (kind : Kind) (target : ReadDescriptor) : UInt16 :=
  match kind with
  | .entity | .configuration => 0
  | _ => target.configurationIndex

/-- The answer to a read command. A failure repeats the target. -/
def readDescriptor (m : Model) (request : ModelHeader) (target : ReadDescriptor) : Octets :=
  let refuse status := request.respond status (ReadDescriptor.body.write target)
  match Kind.ofCode? target.descriptorType with
  | none => refuse .noSuchDescriptor
  | some kind =>
    match m.find? target.configurationIndex kind target.descriptorIndex with
    | none => refuse .noSuchDescriptor
    | some d =>
      if d.encode.isEmpty then refuse .notSupported
      else
        request.respond .success <|
          Layout.word16.write (answerConfiguration kind target) ++ (Layout.reserved 2).write () ++
            d.encode

/-- The answer to a PDU; a response, and a command to another entity, have none. -/
def answer (m : Model) (bs : Octets) : Except DecodeError (Option Octets) := do
  let h ← Header.decode bs
  if h.targetEntityId != m.entityId || !h.messageType.isCommand then return none
  if h.messageType != .command .aem then return some (h.echo bs Status.notImplemented.code)
  let request ← ModelHeader.decode bs
  if request.commandType = .entityAvailable then return some (request.respond .success [])
  if request.commandType = .readDescriptor then
    let target ← ReadDescriptor.decode bs
    return some (readDescriptor m request target)
  return some (h.echo bs Status.notImplemented.code)

/-- One PDU handled: the responder after it, and its answer. -/
def handle (r : Responder) (m : Model) (bs : Octets) :
    Except DecodeError (Responder × Option Octets) := do
  match ← answer m bs with
  | some response => return ({ count := r.count + 1 }, some response)
  | none => return (r, none)

end Responder

end AvbEntity.Enumeration

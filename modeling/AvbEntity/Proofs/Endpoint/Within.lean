import AvbEntity.Proofs.Endpoint.Run
import AvbEntity.Proofs.Enumeration.Declared

/-!
# Reading within what was received

A frame may have any payload. What reads it is written once more, so that it is given windows of
the payload instead of the payload: the fields of each PDU behind its control header are read from
a window, and a window that does not lie within what was received stops everything. Nothing ever is
stopped, and what becomes of the frame is the same. So every field that is read is there, and is
told by its own octets.

## Main definitions

* `Discovery.Pdu.decodeWithin`, `Connection.Pdu.decodeWithin`, `Enumeration.Header.decodeWithin`,
  `Enumeration.ModelHeader.decodeWithin`, `Enumeration.ReadDescriptor.decodeWithin`: what is read
  of the PDUs, from windows
* `Endpoint.receiveWithin`: a frame received and read from windows, unless a window is refused

## Main results

* `Endpoint.receiveWithin_eq`: no window is refused
-/

namespace AvbEntity

/-! ## Discovery -/

namespace Discovery.Pdu

theorem confined_body (messageType : MessageType) (validTime : UInt8) (entityId : Eui64) :
    (body messageType validTime entityId).Confined :=
  .iso (.pair Layout.confined_eui64 <| .pair Layout.confined_word32 <|
    .pair Layout.confined_word16 <| .pair Layout.confined_word16 <|
    .pair Layout.confined_word16 <| .pair Layout.confined_word16 <|
    .pair Layout.confined_word32 <| .pair Layout.confined_word32 <|
    .pair Layout.confined_eui64 <| .pair Layout.confined_word8 <|
    .pair (Layout.confined_reserved 3) <| .pair Layout.confined_word16 <|
    .pair Layout.confined_word16 <| .pair Layout.confined_eui64 <| Layout.confined_reserved 4) _ _

/-- The PDU at the start of a payload, read from windows. -/
def decodeWithin (bs : Octets) : Except ReadFault Pdu := do
  let h ← ControlHeader.decodeExpectingWithin .adp bs
  (ensureLength bs length).mapError .decode
  let messageType ← (MessageType.ofCode h.messageType).mapError .decode
  (body messageType h.status h.id).readAt bs ControlHeader.length

theorem decodeWithin_eq (bs : Octets) : decodeWithin bs = (decode bs).mapError .decode := by
  rw [decodeWithin, ControlHeader.decodeExpectingWithin_eq]
  refine mapError_bind_congr fun h _ => ensureLength_bind_congr fun hlong => ?_
  refine mapError_bind_congr fun messageType _ => ?_
  exact (confined_body messageType h.status h.id).readAt_eq hlong

end Discovery.Pdu

/-! ## Connection management -/

namespace Connection.Pdu

theorem confined_body (messageType : MessageType) (status : Status) (streamId : Eui64) :
    (body messageType status streamId).Confined :=
  .iso (.pair Layout.confined_eui64 <| .pair Layout.confined_eui64 <|
    .pair Layout.confined_eui64 <| .pair Layout.confined_word16 <|
    .pair Layout.confined_word16 <| .pair Layout.confined_mac <| .pair Layout.confined_word16 <|
    .pair Layout.confined_word16 <| .pair Layout.confined_word16 <|
    .pair Layout.confined_word16 <| Layout.confined_reserved 2) _ _

/-- The PDU at the start of a payload, read from windows. -/
def decodeWithin (bs : Octets) : Except ReadFault Pdu := do
  let h ← ControlHeader.decodeExpectingWithin .acmp bs
  (ensureLength bs length).mapError .decode
  let messageType ← (MessageType.ofCode h.messageType).mapError .decode
  (body messageType ⟨h.status⟩ h.id).readAt bs ControlHeader.length

theorem decodeWithin_eq (bs : Octets) : decodeWithin bs = (decode bs).mapError .decode := by
  rw [decodeWithin, ControlHeader.decodeExpectingWithin_eq]
  refine mapError_bind_congr fun h _ => ensureLength_bind_congr fun hlong => ?_
  refine mapError_bind_congr fun messageType _ => ?_
  exact (confined_body messageType ⟨h.status⟩ h.id).readAt_eq hlong

end Connection.Pdu

/-! ## Enumeration -/

namespace Enumeration

namespace Header

/-- The header at the start of a payload, read from windows. -/
def decodeWithin (bs : Octets) : Except ReadFault Header := do
  let h ← ControlHeader.decodeExpectingWithin .aecp bs
  (ensureLength bs length).mapError .decode
  let messageType ← (MessageType.ofCode h.messageType).mapError .decode
  let controllerEntityId ← Layout.eui64.readAt bs 12
  let sequenceId ← Layout.word16.readAt bs 20
  return {
    messageType
    status := h.status
    controlDataLength := h.controlDataLength
    targetEntityId := h.id
    controllerEntityId
    sequenceId }

theorem decodeWithin_eq (bs : Octets) : decodeWithin bs = (decode bs).mapError .decode := by
  rw [decodeWithin, ControlHeader.decodeExpectingWithin_eq]
  refine mapError_bind_congr fun h _ => ensureLength_bind_congr fun hlong => ?_
  refine mapError_bind_congr fun messageType _ => ?_
  -- the length check stands in front of both fields
  have hcontroller := Layout.confined_eui64.readAt_eq (Nat.le_trans (by decide) hlong : 20 ≤ _)
  have hsequence := Layout.confined_word16.readAt_eq (hlong : 22 ≤ _)
  rw [hcontroller, hsequence]
  rfl

/-- The response that repeats a command, which is read from windows. -/
def echoWithin (h : Header) (request : Octets) (status : UInt8) : Except ReadFault Octets := do
  let total := h.echoLength request.length
  let rest ← request.window length (total - length)
  return (h.echoed request.length status).encode ++ rest

/-- As much of the command is there as is repeated. -/
theorem echoWithin_eq {bs : Octets} {h : Header} (hdecode : decode bs = .ok h) (status : UInt8) :
    h.echoWithin bs status = .ok (h.echo bs status) := by
  have hhead : length ≤ h.echoLength bs.length := Nat.le_max_left ..
  have hwindow : bs.window length (h.echoLength bs.length - length) =
      .ok ((bs.drop length).take (h.echoLength bs.length - length)) :=
    Octets.window_eq ((Nat.add_sub_cancel' hhead).le.trans (echoLength_le hdecode))
  rw [echoWithin, hwindow, bind_ok, echo_eq hdecode, List.drop_take]
  rfl

end Header

namespace ModelHeader

/-- The header at the start of a payload, read from windows. -/
def decodeWithin (bs : Octets) : Except ReadFault ModelHeader := do
  let common ← Header.decodeWithin bs
  (ensureLength bs length).mapError .decode
  let word ← Layout.number 2 <$> bs.window 22 2
  return { common, unsolicited := 0x8000 ≤ word, commandType := ⟨.ofNat (word % 0x8000)⟩ }

theorem decodeWithin_eq (bs : Octets) : decodeWithin bs = (decode bs).mapError .decode := by
  rw [decodeWithin, Header.decodeWithin_eq]
  refine mapError_bind_congr fun common _ => ensureLength_bind_congr fun hlong => ?_
  rw [Octets.window_eq hlong, Except.map_ok, Layout.number_take (Nat.le_refl 2)]
  rfl

end ModelHeader

namespace ReadDescriptor

/-- The target named by a command of the entity model, read from a window. -/
def decodeWithin (bs : Octets) : Except ReadFault ReadDescriptor := do
  (ensureLength bs length).mapError .decode
  body.readAt bs ModelHeader.length

theorem decodeWithin_eq (bs : Octets) : decodeWithin bs = (decode bs).mapError .decode :=
  ensureLength_bind_congr fun hlong => confined_body.readAt_eq hlong

end ReadDescriptor

namespace Responder

/-- The answer to a PDU that is read from windows. -/
def answerWithin (m : Model) (bs : Octets) : Except ReadFault (Option Octets) := do
  let h ← Header.decodeWithin bs
  if h.targetEntityId != m.entityId || !h.messageType.isCommand then return none
  if h.messageType != .command .aem then
    let response ← h.echoWithin bs Status.notImplemented.code
    return some response
  let request ← ModelHeader.decodeWithin bs
  if request.commandType = .entityAvailable then return some (request.respond .success [])
  if request.commandType = .readDescriptor then
    let target ← ReadDescriptor.decodeWithin bs
    return some (readDescriptor m request target)
  let response ← h.echoWithin bs Status.notImplemented.code
  return some response

theorem answerWithin_eq (m : Model) (bs : Octets) :
    answerWithin m bs = (answer m bs).mapError .decode := by
  rw [answerWithin, Header.decodeWithin_eq]
  refine mapError_bind_congr fun h hdecode => ?_
  rw [Header.echoWithin_eq hdecode]
  split
  next => rfl
  next =>
    split
    next => rfl
    next =>
      rw [ModelHeader.decodeWithin_eq]
      refine mapError_bind_congr fun request _ => ?_
      split
      next => rfl
      next =>
        split
        next =>
          rw [ReadDescriptor.decodeWithin_eq]
          exact mapError_bind_congr fun target _ => rfl
        next => rfl

/-- One PDU that is read from windows handled. -/
def handleWithin (r : Responder) (m : Model) (bs : Octets) :
    Except ReadFault (Responder × Option Octets) := do
  match ← answerWithin m bs with
  | some response => return ({ count := r.count + 1 }, some response)
  | none => return (r, none)

theorem handleWithin_eq (r : Responder) (m : Model) (bs : Octets) :
    r.handleWithin m bs = (r.handle m bs).mapError .decode := by
  rw [handleWithin, answerWithin_eq]
  refine mapError_bind_congr fun o _ => ?_
  cases o <;> rfl

end Responder

end Enumeration

/-! ## Frames -/

namespace Endpoint

/-- A control frame, read from windows, handed to the protocol of its payload. -/
def routeWithin (e : Endpoint) (frame : Frame) (now : Time) (accepted : Bool) :
    Except ReadFault (Endpoint × List Outgoing) := do
  match ← (peekSubtype frame.payload).mapError .decode with
  | .adp =>
    let p ← Discovery.Pdu.decodeWithin frame.payload
    return ({ e with advertiser := e.advertiser.hear e.model.entityId p }, [])
  | .aecp =>
    let (responder, response) ← e.responder.handleWithin e.model frame.payload
    return ({ e with responder }, response.toList.map (⟨frame.src, ·⟩))
  | .acmp =>
    if e.acmpStarted then
      let p ← Connection.Pdu.decodeWithin frame.payload
      let (connections, model, sent) := e.connections.handle e.model p now accepted
      return ({ e with connections, model }, sent.map multicast)
    else return (e, [])

/-- A frame received and read from windows: there is no outcome if a window is asked for that does
not lie within the payload. -/
def receiveWithin (e : Endpoint) (frame : Frame) (now : Time) (accepted : Bool) :
    Option (Endpoint × List Outgoing) :=
  if frame.isControl then
    match e.routeWithin frame now accepted with
    | .ok result => some result
    | .error (.decode _) => some (e, [])
    | .error (.outOfBounds ..) => none
  else some (e, [])

variable (e : Endpoint) (frame : Frame) (now : Time) (accepted : Bool)

theorem routeWithin_eq :
    e.routeWithin frame now accepted = (e.route frame now accepted).mapError .decode := by
  rw [routeWithin, Discovery.Pdu.decodeWithin_eq, Connection.Pdu.decodeWithin_eq,
    Enumeration.Responder.handleWithin_eq]
  refine mapError_bind_congr fun subtype _ => ?_
  cases subtype with
  | adp => exact mapError_bind_congr fun p _ => rfl
  | aecp => exact mapError_bind_congr fun result _ => rfl
  | acmp =>
    simp only
    split
    next => exact mapError_bind_congr fun p _ => rfl
    next => rfl

/-- Whatever the payload is, no window is refused, and the outcome is the same. -/
theorem receiveWithin_eq :
    e.receiveWithin frame now accepted = some (e.receive frame now accepted) := by
  rw [receiveWithin, receive, routeWithin_eq]
  split
  next =>
    cases e.route frame now accepted with
    | error fault => rfl
    | ok result => rfl
  next => rfl

end Endpoint

end AvbEntity

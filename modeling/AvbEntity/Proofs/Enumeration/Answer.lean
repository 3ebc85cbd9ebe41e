import AvbEntity.Endpoint.Basic
import AvbEntity.Proofs.Enumeration.Reading
import AvbEntity.Proofs.Enumeration.Responder

/-!
# What the responder answers

Every command to the entity that is understood is answered by one PDU to its sender. The answer is
of the class of the command, says truly how long it is, and lets the controller find its command
again. A command that is not implemented is repeated as far as it says it is long.

## Main definitions

* `Responder.IsAnswer`: what the answer to a command is
* `Responder.Handles`: what becomes of octets that are handed over

## Main results

* `Header.length_echo`, `Header.drop_echo`: how much of a command is repeated
* `Responder.isAnswer_respond`, `Responder.isAnswer_echo`: the two ways to make an answer
* `Responder.handles_of_build`: what an entity with a built model answers
-/

namespace AvbEntity

namespace Enumeration

namespace MessageType

/-- A response has the number after its command. -/
theorem code_toResponse {m : MessageType} (h : m.isCommand) : m.toResponse.code = m.code + 1 := by
  cases m with
  | command c => cases c <;> rfl
  | response c => cases h

end MessageType

namespace Header

variable {bs : Octets} {h : Header}

/-- A header that was read has all its octets, and a length of 11 bits. -/
theorem bounds_of_decode (hdecode : decode bs = .ok h) :
    length ≤ bs.length ∧ h.controlDataLength.toNat < 2048 := by
  obtain ⟨control, hcontrol, hrest⟩ := bind_eq_ok.mp hdecode
  obtain ⟨_, hlong, hrest⟩ := bind_eq_ok.mp hrest
  obtain ⟨messageType, -, hrest⟩ := bind_eq_ok.mp hrest
  obtain rfl := Except.ok.inj hrest
  obtain ⟨-, -, -, rfl⟩ := ControlHeader.decode_eq_ok.mp
    (ControlHeader.decodeExpecting_eq_ok.mp hcontrol).1
  refine ⟨ensureLength_eq_ok.mp hlong, ?_⟩
  show (UInt16.ofNat (Layout.number 2 (bs.drop 2) % 2048)).toNat < 2048
  rw [UInt16.toNat_ofNat']
  omega

/-- What is read as a header is recognised by its first octet. -/
theorem peekSubtype_of_decode (hdecode : decode bs = .ok h) : peekSubtype bs = .ok .aecp := by
  obtain ⟨control, hcontrol, -⟩ := bind_eq_ok.mp hdecode
  exact ControlHeader.peekSubtype_of_decodeExpecting hcontrol

/-! ## Commands that are repeated -/

section

variable (hdecode : decode bs = .ok h)
include hdecode

/-- As many octets are repeated as the command says it has, if it has them. -/
theorem echoLength_eq :
    h.echoLength bs.length =
      max length (min (ControlHeader.length + h.controlDataLength.toNat) bs.length) := by
  rw [echoLength, Nat.max_eq_left (bounds_of_decode hdecode).1]

theorem echoLength_le : h.echoLength bs.length ≤ bs.length := by
  have hlong := (bounds_of_decode hdecode).1
  rw [echoLength_eq hdecode]
  omega

/-- The length of what is repeated fits into 11 bits. -/
theorem echoLength_lt : h.echoLength bs.length - ControlHeader.length < 2048 := by
  have hlength := (bounds_of_decode hdecode).2
  rw [echoLength_eq hdecode, length, ControlHeader.length]
  omega

end

/-- The header of the answer that repeats a command. -/
def echoed (h : Header) (received : Nat) (status : UInt8) : Header :=
  { h with
    messageType := h.messageType.toResponse
    status
    controlDataLength := .ofNat (h.echoLength received - ControlHeader.length) }

section

variable (hdecode : decode bs = .ok h) (status : UInt8)
include hdecode

/-- After a header of its own the answer repeats the command. -/
theorem echo_eq : h.echo bs status =
    (h.echoed bs.length status).encode ++ (bs.take (h.echoLength bs.length)).drop length := by
  rw [echo, if_pos (echoLength_le hdecode)]
  rfl

theorem length_echo : (h.echo bs status).length = h.echoLength bs.length := by
  have hle := echoLength_le hdecode
  have hheader : length ≤ h.echoLength bs.length := Nat.le_max_left ..
  rw [echo_eq hdecode, List.length_append, length_encode, List.length_drop, List.length_take,
    Nat.min_eq_left hle, Nat.add_sub_cancel' hheader]

theorem drop_echo : (h.echo bs status).drop length <+: bs.drop length := by
  rw [echo_eq hdecode, List.drop_left' (length_encode _), List.drop_take]
  exact List.take_prefix ..

theorem decode_echo (hstatus : status.toNat < 32) :
    decode (h.echo bs status) = .ok (h.echoed bs.length status) := by
  rw [echo_eq hdecode]
  refine decode_encode hstatus ?_ _
  have hlt := echoLength_lt hdecode
  show (UInt16.ofNat (h.echoLength bs.length - ControlHeader.length)).toNat < 2048
  rw [UInt16.toNat_ofNat']
  omega

end

end Header

/-! ## Commands on the entity model -/

namespace ModelHeader

variable {bs : Octets} {request : ModelHeader}

/-- The header of a command on the entity model: the common header, and the word behind it. -/
theorem decode_eq_ok : decode bs = .ok request ↔
    ∃ h, Header.decode bs = .ok h ∧ length ≤ bs.length ∧
      request = {
        common := h
        unsolicited := 0x8000 ≤ Layout.number 2 (bs.drop 22)
        commandType := ⟨.ofNat (Layout.number 2 (bs.drop 22) % 0x8000)⟩ } := by
  simp only [decode, bind_eq_ok, ensureLength_eq_ok, exists_const, pure, Except.pure,
    Except.ok.injEq]
  constructor
  · rintro ⟨h, hheader, hlong, hrequest⟩
    exact ⟨h, hheader, hlong, hrequest.symm⟩
  · rintro ⟨h, hheader, hlong, hrequest⟩
    exact ⟨h, hheader, hlong, hrequest.symm⟩

/-- It begins with the common header. -/
theorem common_of_decode {h : Header} (hheader : Header.decode bs = .ok h)
    (hrequest : decode bs = .ok request) : request.common = h := by
  obtain ⟨h', hheader', -, rfl⟩ := decode_eq_ok.mp hrequest
  exact Except.ok.inj (hheader'.symm.trans hheader)

/-- A command type that was read has 15 bits. -/
theorem commandType_lt_of_decode (hdecode : decode bs = .ok request) :
    request.commandType.code.toNat < 0x8000 := by
  obtain ⟨h, -, -, rfl⟩ := decode_eq_ok.mp hdecode
  show (UInt16.ofNat (Layout.number 2 (bs.drop 22) % 0x8000)).toNat < 0x8000
  rw [UInt16.toNat_ofNat']
  omega

/-- A command that says it has a command type is repeated with it. -/
theorem decode_echo (hdecode : decode bs = .ok request) {status : UInt8}
    (hstatus : status.toNat < 32) (hlength : 12 ≤ request.common.controlDataLength.toNat) :
    decode (request.common.echo bs status) =
      .ok { request with common := request.common.echoed bs.length status } := by
  obtain ⟨h, hheader, hlong, rfl⟩ := decode_eq_ok.mp hdecode
  have hechoed : length ≤ (h.echo bs status).length := by
    rw [Header.length_echo hheader, Header.echoLength_eq hheader, length, ControlHeader.length]
    rw [length] at hlong
    simp only at hlength
    omega
  have hword : Layout.number 2 ((h.echo bs status).drop 22) = Layout.number 2 (bs.drop 22) := by
    obtain ⟨rest, hrest⟩ := Header.drop_echo hheader status
    have htwo : 2 ≤ ((h.echo bs status).drop Header.length).length := by
      rw [List.length_drop, Header.length]
      rw [length] at hechoed
      omega
    rw [Header.length] at hrest htwo
    rw [Layout.number, Layout.number, ← hrest, List.take_append_of_le_length htwo]
  rw [decode_eq_ok]
  exact ⟨_, Header.decode_echo hheader status hstatus, hechoed, by rw [hword]⟩

end ModelHeader

namespace Responder

/-- What the answer to a command is: `h` is the header of the command, and `h'` of the answer. -/
structure IsAnswer (bs : Octets) (h : Header) (response : Octets) (h' : Header) : Prop where
  decode : Header.decode response = .ok h'
  /-- The answer is of the class of the command. -/
  messageType : h'.messageType.code = h.messageType.code + 1
  targetEntityId : h'.targetEntityId = h.targetEntityId
  controllerEntityId : h'.controllerEntityId = h.controllerEntityId
  sequenceId : h'.sequenceId = h.sequenceId
  status : ∃ s ∈ [Status.success, .notImplemented, .noSuchDescriptor, .notSupported],
    h'.status = s.code
  /-- It is as long as it says. -/
  length : response.length = ControlHeader.length + h'.controlDataLength.toNat
  /-- It has the command type, if the command says that it has one. -/
  commandType : h.messageType = .command .aem → 12 ≤ h.controlDataLength.toNat →
    ∃ request answer, ModelHeader.decode bs = .ok request ∧
      ModelHeader.decode response = .ok answer ∧ answer.commandType = request.commandType
  /-- What is not implemented is repeated, as far as the command says that it is long. -/
  repeats : h'.status = Status.notImplemented.code →
    response.length =
      max Header.length (min (ControlHeader.length + h.controlDataLength.toNat) bs.length) ∧
    response.drop Header.length <+: bs.drop Header.length

variable {m : Model} {bs : Octets} {h : Header}

/-- A command that is repeated is answered. -/
theorem isAnswer_echo (hdecode : Header.decode bs = .ok h) (hcommand : h.messageType.isCommand)
    (hmodel : h.messageType = .command .aem → ∃ request, ModelHeader.decode bs = .ok request) :
    IsAnswer bs h (h.echo bs Status.notImplemented.code)
      (h.echoed bs.length Status.notImplemented.code) := by
  have hstatus : Status.notImplemented.code.toNat < 32 := by decide
  constructor
  case decode => exact Header.decode_echo hdecode _ hstatus
  case messageType => exact MessageType.code_toResponse hcommand
  case targetEntityId => rfl
  case controllerEntityId => rfl
  case sequenceId => rfl
  case status => exact ⟨.notImplemented, by decide, rfl⟩
  case length =>
    have hlt := Header.echoLength_lt hdecode
    have hheader : Header.length ≤ h.echoLength bs.length := Nat.le_max_left ..
    rw [Header.length] at hheader
    rw [Header.length_echo hdecode]
    show _ = 12 + (UInt16.ofNat (h.echoLength bs.length - 12)).toNat
    rw [ControlHeader.length] at hlt
    rw [UInt16.toNat_ofNat']
    omega
  case commandType =>
    intro haem hlength
    obtain ⟨request, hrequest⟩ := hmodel haem
    obtain ⟨h', hheader, -, rfl⟩ := ModelHeader.decode_eq_ok.mp hrequest
    obtain rfl : h = h' := Except.ok.inj (hdecode.symm.trans hheader)
    exact ⟨_, _, hrequest, ModelHeader.decode_echo hrequest hstatus hlength, rfl⟩
  case repeats =>
    intro _
    exact ⟨(Header.length_echo hdecode _).trans (Header.echoLength_eq hdecode),
      Header.drop_echo hdecode _⟩

/-- The header of an answer with a payload. -/
def responded (request : ModelHeader) (status : Status) (payload : Octets) : Header :=
  { request.common with
    messageType := .response .aem
    status := status.code
    controlDataLength := ModelHeader.controlDataLength payload }

/-- A command that is implemented is answered with a payload. -/
theorem isAnswer_respond {request : ModelHeader} (hdecode : ModelHeader.decode bs = .ok request)
    (haem : request.common.messageType = .command .aem) {status : Status}
    (hstatus : status ∈ [Status.success, .noSuchDescriptor, .notSupported]) {payload : Octets}
    (hpayload : payload.length ≤ 512) :
    IsAnswer bs request.common (request.respond status payload)
      (responded request status payload) := by
  have hstatuses : ∀ s ∈ [Status.success, .noSuchDescriptor, .notSupported],
      s ∈ [Status.success, .notImplemented, .noSuchDescriptor, .notSupported] ∧
        s.code.toNat < 32 ∧ s.code ≠ Status.notImplemented.code := by decide
  obtain ⟨hlisted, hbits, hne⟩ := hstatuses status hstatus
  have hlength := ModelHeader.controlDataLength_lt hpayload
  constructor
  case decode => exact Header.decode_encode hbits hlength _
  case messageType => rw [haem]; rfl
  case targetEntityId => rfl
  case controllerEntityId => rfl
  case sequenceId => rfl
  case status => exact ⟨status, hlisted, rfl⟩
  case length =>
    rw [ModelHeader.respond, List.length_append, Header.length_encode, List.length_append,
      Layout.length_write]
    show 22 + (2 + payload.length) = 12 + (UInt16.ofNat (24 - 12 + payload.length)).toNat
    rw [UInt16.toNat_ofNat']
    omega
  case commandType =>
    intro _ _
    exact ⟨_, _, hdecode, ModelHeader.decode_write hbits hlength
      (ModelHeader.commandType_lt_of_decode hdecode) _, rfl⟩
  case repeats =>
    intro hnot
    exact absurd hnot hne

end Responder

end Enumeration

/-! ## Read commands -/

/-- Whatever is found in a model that was built keeps within its limits. -/
theorem Model.Built.fits_of_find? {tree : Tree} {mac : Mac} {m : Model} (h : m.Built tree mac)
    {c i : UInt16} {k : Kind} {d : Descriptor} (hd : m.find? c k i = some d) : d.Fits := by
  by_cases hentity : k = .entity
  · subst hentity
    obtain ⟨-, hfound⟩ := Option.ite_none_right_eq_some.mp hd
    obtain rfl := Option.some.inj hfound
    exact h.entity
  by_cases hconfiguration : k = .configuration
  · subst hconfiguration
    obtain ⟨configuration, hp, rfl⟩ := Option.map_eq_some_iff.mp hd
    obtain ⟨node, hnode⟩ := h.exists_built hp
    exact hnode.index ▸ hnode.summary
  · rw [find?_of_ne hentity hconfiguration] at hd
    obtain ⟨configuration, hp, hfind⟩ := Option.bind_eq_some_iff.mp hd
    obtain ⟨node, hnode⟩ := h.exists_built hp
    exact hnode.fits d (List.mem_of_find?_eq_some hfind)

namespace Enumeration

namespace Responder

variable {tree : Tree} {mac : Mac} {m : Model} {bs : Octets} {h : Header}

/-- A read command is answered with no more than a descriptor and its configuration. -/
theorem readDescriptor_eq (hbuilt : m.Built tree mac) (request : ModelHeader)
    (t : ReadDescriptor) :
    ∃ status ∈ [Status.success, .noSuchDescriptor, .notSupported], ∃ payload,
      payload.length ≤ 512 ∧ readDescriptor m request t = request.respond status payload := by
  have hbody : (ReadDescriptor.body.write t).length ≤ 512 := by
    rw [ReadDescriptor.length_write_body]
    omega
  cases hk : Kind.ofCode? t.descriptorType with
  | none =>
    exact ⟨.noSuchDescriptor, by decide, _, hbody, by simp only [readDescriptor, hk]⟩
  | some k =>
    cases hfind : m.find? t.configurationIndex k t.descriptorIndex with
    | none =>
      exact ⟨.noSuchDescriptor, by decide, _, hbody, by simp only [readDescriptor, hk, hfind]⟩
    | some d =>
      by_cases hempty : d.encode.isEmpty
      · exact ⟨.notSupported, by decide, _, hbody,
          by simp only [readDescriptor, hk, hfind, hempty, if_true]⟩
      · have hserved := (hbuilt.fits_of_find? hfind).length_served (answerConfiguration k t)
        exact ⟨.success, by decide, _, hserved,
          by simp only [readDescriptor, hk, hfind, hempty, Bool.false_eq_true, if_false]⟩

/-! ## All PDUs -/

/-- A PDU that is read to its end is answered if it is a command to the entity. -/
theorem answer_cases (hbuilt : m.Built tree mac) {o : Option Octets}
    (hanswer : answer m bs = .ok o) : ∃ h, Header.decode bs = .ok h ∧
      (¬ (h.targetEntityId = m.entityId ∧ h.messageType.isCommand) ∧ o = none ∨
        (h.targetEntityId = m.entityId ∧ h.messageType.isCommand) ∧
          ∃ response h', o = some response ∧ IsAnswer bs h response h') := by
  obtain ⟨h, hdecode, hend⟩ := answered hanswer
  refine ⟨h, hdecode, ?_⟩
  cases hend with
  | passed hnot => exact .inl ⟨hnot, rfl⟩
  | foreign hid hcommand hclass =>
    exact .inr ⟨⟨hid, hcommand⟩, _, _, rfl,
      isAnswer_echo hdecode hcommand fun haem => absurd haem hclass⟩
  | available hid haem hrequest htype =>
    obtain rfl := ModelHeader.common_of_decode hdecode hrequest
    exact .inr ⟨⟨hid, haem ▸ rfl⟩, _, _, rfl,
      isAnswer_respond hrequest haem (by decide) (Nat.zero_le _)⟩
  | @read request t hid haem hrequest htarget =>
    obtain rfl := ModelHeader.common_of_decode hdecode hrequest
    obtain ⟨status, hstatus, payload, hpayload, heq⟩ := readDescriptor_eq hbuilt request t
    exact .inr ⟨⟨hid, haem ▸ rfl⟩, _, _, rfl,
      heq ▸ isAnswer_respond hrequest haem hstatus hpayload⟩
  | @unknown request hid haem hrequest htype =>
    have hcommand : h.messageType.isCommand := haem ▸ rfl
    exact .inr ⟨⟨hid, hcommand⟩, _, _, rfl,
      isAnswer_echo hdecode hcommand fun _ => ⟨request, hrequest⟩⟩

end Responder

end Enumeration

namespace Endpoint

open Enumeration

variable {e : Endpoint} (frame : Frame)

/-- What the responder answers is sent back to where the PDU came from. -/
theorem receive_of_handle (hframe : frame.isControl) {r : Responder} {o : Option Octets}
    (h : e.responder.handle e.model frame.payload = .ok (r, o)) (now : Time) (accepted : Bool) :
    e.receive frame now accepted =
      ({ e with responder := r }, o.toList.map (⟨frame.src, ·⟩)) := by
  obtain ⟨header, hdecode, -⟩ := bind_eq_ok.mp (Responder.handle_eq_ok.mp h).1
  have hroute : e.route frame now accepted =
      .ok ({ e with responder := r }, o.toList.map (⟨frame.src, ·⟩)) := by
    rw [route, Header.peekSubtype_of_decode hdecode, bind_ok]
    simp only [h, bind_ok]
    rfl
  rw [receive, if_pos hframe, hroute]

/-- What the responder does not understand has no effect. -/
theorem receive_of_handle_error (hpeek : peekSubtype frame.payload = .ok .aecp)
    {error : DecodeError} (h : e.responder.handle e.model frame.payload = .error error)
    (now : Time) (accepted : Bool) : e.receive frame now accepted = (e, []) := by
  have hroute : e.route frame now accepted = .error error := by
    rw [route, hpeek, bind_ok]
    simp only [h]
    rfl
  rw [receive, hroute]
  exact ite_self _

end Endpoint

namespace Enumeration

namespace Responder

/-- What becomes of octets that are handed to the responder of an entity. -/
structure Handles (r : Responder) (m : Model) (bs : Octets) : Prop where
  /-- A header is enough to be read to the end, but for commands on the entity model. -/
  reads_iff : (∃ result, r.handle m bs = .ok result) ↔
    ∃ h, Header.decode bs = .ok h ∧
      (h.targetEntityId = m.entityId → h.messageType = .command .aem →
        ∃ request, ModelHeader.decode bs = .ok request ∧
          (request.commandType = .readDescriptor → ∃ t, ReadDescriptor.decode bs = .ok t))
  /-- A command to the entity that is read to its end is answered, and nothing else is. -/
  answers_iff : (∃ r' response, r.handle m bs = .ok (r', some response)) ↔
    (∃ result, r.handle m bs = .ok result) ∧ ∃ h, Header.decode bs = .ok h ∧
      h.targetEntityId = m.entityId ∧ h.messageType.isCommand
  answered : ∀ r' response, r.handle m bs = .ok (r', some response) →
    r'.count = r.count + 1 ∧ ∃ h h', Header.decode bs = .ok h ∧ IsAnswer bs h response h'
  unanswered : ∀ r', r.handle m bs = .ok (r', none) → r' = r
  /-- The answer is all that is sent, to the sender of the frame. -/
  sends : ∀ (e : Endpoint) (src dest : Mac) (now : Time) (accepted : Bool) r' answer,
    e.model = m → e.responder = r → r.handle m bs = .ok (r', answer) →
    e.receive ⟨src, dest, Frame.controlType, bs⟩ now accepted =
      ({ e with responder := r' }, answer.toList.map (⟨src, ·⟩))
  /-- An error has no effect. -/
  fails : ∀ (e : Endpoint) (src dest : Mac) (now : Time) (accepted : Bool) error,
    e.model = m → e.responder = r → peekSubtype bs = .ok .aecp → r.handle m bs = .error error →
    e.receive ⟨src, dest, Frame.controlType, bs⟩ now accepted = (e, [])

/-- **Every answer is well formed and addressed back**: an entity whose model was built answers the
commands to it that it can read, each by one PDU to the sender, which is what an answer is. -/
theorem handles_of_build {tree : Tree} {mac : Mac} {m : Model}
    (hbuild : Model.build tree mac = .ok m) (r : Responder) (bs : Octets) : r.Handles m bs := by
  have hbuilt := Model.built_of_build hbuild
  constructor
  case reads_iff =>
    rw [← exists_answer_iff]
    constructor
    · rintro ⟨⟨r', o⟩, hhandle⟩
      exact ⟨o, (handle_eq_ok.mp hhandle).1⟩
    · rintro ⟨o, hanswer⟩
      exact ⟨(_, o), handle_eq_ok.mpr ⟨hanswer, rfl⟩⟩
  case answers_iff =>
    constructor
    · rintro ⟨r', response, hhandle⟩
      obtain ⟨h, hdecode, ⟨-, hnone⟩ | ⟨hmine, -⟩⟩ :=
        answer_cases hbuilt (handle_eq_ok.mp hhandle).1
      · cases hnone
      · exact ⟨⟨_, hhandle⟩, h, hdecode, hmine⟩
    · rintro ⟨⟨⟨r', o⟩, hhandle⟩, h, hdecode, hmine⟩
      obtain ⟨h', hdecode', ⟨hnot, -⟩ | ⟨-, response, _, rfl, -⟩⟩ :=
        answer_cases hbuilt (handle_eq_ok.mp hhandle).1
      · obtain rfl : h = h' := Except.ok.inj (hdecode.symm.trans hdecode')
        exact absurd hmine hnot
      · exact ⟨r', response, hhandle⟩
  case answered =>
    intro r' response hhandle
    obtain ⟨hanswer, rfl⟩ := handle_eq_ok.mp hhandle
    obtain ⟨h, hdecode, ⟨-, hnone⟩ | ⟨-, response', h', hsome, hresponse⟩⟩ :=
      answer_cases hbuilt hanswer
    · cases hnone
    · obtain rfl := Option.some.inj hsome
      exact ⟨rfl, h, h', hdecode, hresponse⟩
  case unanswered =>
    intro r' hhandle
    exact (handle_eq_ok.mp hhandle).2
  case sends =>
    rintro e src dest now accepted r' answer rfl rfl hhandle
    exact Endpoint.receive_of_handle ⟨src, dest, Frame.controlType, bs⟩ rfl hhandle now accepted
  case fails =>
    rintro e src dest now accepted error rfl rfl hpeek hhandle
    exact Endpoint.receive_of_handle_error ⟨src, dest, Frame.controlType, bs⟩ hpeek hhandle now
      accepted

/-- The octets of a command that is not implemented, in a frame that was filled up. -/
def lockEntity : Octets :=
  ModelHeader.command Model.duplex.entityId .zero 7 ⟨1⟩ [] ++ .replicate 22 0

/-- It is repeated without the filling. -/
theorem handles_lockEntity :
    Model.build .duplex .duplex = .ok .duplex ∧ Handles {} .duplex lockEntity ∧
      ((handle {} .duplex lockEntity).toOption.bind (·.2)).map (·.length) = some 24 :=
  ⟨Model.build_duplex, handles_of_build Model.build_duplex {} lockEntity, by decide +kernel⟩

end Responder

end Enumeration

end AvbEntity

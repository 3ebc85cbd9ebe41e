import AvbEntity.Proofs.Enumeration.Answer
import AvbEntity.Proofs.Wire.Window

/-!
# What follows the declared length

A control header declares how long the PDU is, and more may follow it: the network fills short
frames up. A command that is repeated ends where it says that it ends. But a command on the entity
model is read as far as octets were received, so one that was cut off in front of its target is
completed by whatever follows it. What follows the declared length does not matter exactly if
everything that is read stands in front of it.

## Main definitions

* `ControlHeader.declared`: the length that a header declares
* `Responder.readLength`: how many octets of a command are read
* `Responder.Indifferent`: what becomes of octets that are cut off behind the declared length

## Main results

* `Header.decode_take`, `ModelHeader.decode_take`, `ReadDescriptor.decode_take`: what is read is
  told by as many octets as are asked for
* `Responder.answer_take`, `Responder.answer_take_of_lt`: the answer to what was declared
* `Responder.indifferent_of_decode`: when what follows matters
* `Responder.not_same_of_filled`: a command that is completed by the filling of its frame
-/

namespace AvbEntity

/-- The number of octets that the header declares: its own, and those of the control data. -/
def ControlHeader.declared (h : ControlHeader) : Nat :=
  length + h.controlDataLength.toNat

/-- Fewer octets than needed are refused, with their number. -/
theorem ensureLength_take_of_lt {bs : Octets} {needed n : Nat} (hn : n ≤ bs.length)
    (h : n < needed) : ensureLength (bs.take n) needed = .error (.truncated needed n) := by
  rw [ensureLength, List.length_take_of_le hn, if_pos h]

theorem error_bind {ε α β : Type} (e : ε) (f : α → Except ε β) :
    (Except.error e >>= f) = .error e :=
  rfl

/-! ## What says how much was received -/

/-- If too few octets were received, their number is said. -/
def SaysReceived {α : Type} (bs : Octets) (x : Except DecodeError α) : Prop :=
  ∀ needed available, x = .error (.truncated needed available) → available = bs.length

namespace SaysReceived

variable {α β : Type} {bs : Octets}

theorem ok (a : α) : SaysReceived bs (.ok a) := by
  intro needed available h
  cases h

theorem error {e : DecodeError} (he : ∀ needed available, e ≠ .truncated needed available) :
    SaysReceived bs (.error e : Except DecodeError α) :=
  fun needed available h => absurd (Except.error.inj h) (he needed available)

theorem ensureLength (needed : Nat) : SaysReceived bs (ensureLength bs needed) := by
  intro needed' available h
  unfold AvbEntity.ensureLength at h
  split at h
  next =>
    cases h
    rfl
  next => cases h

theorem bind {x : Except DecodeError α} {f : α → Except DecodeError β} (hx : SaysReceived bs x)
    (hf : ∀ a, SaysReceived bs (f a)) : SaysReceived bs (x >>= f) := by
  cases x with
  | error e => exact fun needed available h => hx needed available (congrArg _ (Except.error.inj h))
  | ok a => exact hf a

theorem controlHeader (subtype : Subtype) :
    SaysReceived bs (ControlHeader.decodeExpecting subtype bs) := by
  -- only the length check says a number of octets
  refine .bind (.bind (.ensureLength _) fun _ => ?_) fun h => ?_
  · split
    next => exact .error (by simp)
    next =>
      simp only
      split
      next => exact .error (by simp)
      next => exact .ok _
  · split
    next => exact .error (by simp)
    next => exact .ok _

end SaysReceived

namespace Enumeration

variable {bs : Octets} {n : Nat}

/-! ## How much is read -/

namespace MessageType

theorem saysReceived_ofCode (code : UInt8) : SaysReceived bs (ofCode code) := by
  unfold ofCode
  split
  next => exact .ok _
  next => exact .error (by simp)

end MessageType

namespace Header

theorem decode_take (h : length ≤ n) (bs : Octets) : decode (bs.take n) = decode bs := by
  have htwelve : ControlHeader.length ≤ n := Nat.le_trans (by decide) h
  have hcontroller : Layout.eui64.read ((bs.take n).drop 12) = Layout.eui64.read (bs.drop 12) :=
    Layout.confined_eui64.drop_take (Nat.le_trans (by decide : 20 ≤ length) h) bs
  have hsequence : Layout.word16.read ((bs.take n).drop 20) = Layout.word16.read (bs.drop 20) :=
    Layout.confined_word16.drop_take h bs
  rw [decode, decode, ControlHeader.decodeExpecting_take htwelve, ensureLength_take h,
    hcontroller, hsequence]

/-- A header that is cut off is refused. -/
theorem decode_take_of_lt {control : ControlHeader}
    (hcontrol : ControlHeader.decodeExpecting .aecp bs = .ok control)
    (htwelve : ControlHeader.length ≤ n) (h : n < length) (hn : n ≤ bs.length) :
    decode (bs.take n) = .error (.truncated length n) := by
  rw [decode, ControlHeader.decodeExpecting_take htwelve, hcontrol, bind_ok,
    ensureLength_take_of_lt hn h, error_bind]

theorem saysReceived_decode (bs : Octets) : SaysReceived bs (decode bs) :=
  .bind (.controlHeader _) fun _ => .bind (.ensureLength _) fun _ =>
    .bind (MessageType.saysReceived_ofCode _) fun _ => .ok _

/-- What the header declares is what its control header declares. -/
theorem declared_eq {control : ControlHeader} {h : Header}
    (hcontrol : ControlHeader.decodeExpecting .aecp bs = .ok control)
    (hdecode : decode bs = .ok h) :
    control.declared = ControlHeader.length + h.controlDataLength.toNat := by
  obtain ⟨control', hcontrol', hrest⟩ := bind_eq_ok.mp hdecode
  obtain ⟨_, -, hrest⟩ := bind_eq_ok.mp hrest
  obtain ⟨messageType, -, hrest⟩ := bind_eq_ok.mp hrest
  obtain rfl := Except.ok.inj (hcontrol.symm.trans hcontrol')
  obtain rfl := Except.ok.inj hrest
  rfl

/-- What is repeated of a command ends where the command says that it ends. -/
theorem echo_take {h : Header} (hdecode : decode bs = .ok h)
    (hn : n = ControlHeader.length + h.controlDataLength.toNat) (hhead : length ≤ n)
    (hlong : n ≤ bs.length) (status : UInt8) : h.echo (bs.take n) status = h.echo bs status := by
  have hcut : decode (bs.take n) = .ok h := (decode_take hhead bs).trans hdecode
  have htotal : h.echoLength bs.length = n := by
    rw [echoLength_eq hdecode, ← hn, Nat.min_eq_left hlong, Nat.max_eq_right hhead]
  have htotal' : h.echoLength (bs.take n).length = n := by
    rw [echoLength_eq hcut, ← hn, List.length_take_of_le hlong, Nat.min_self,
      Nat.max_eq_right hhead]
  have hechoed : h.echoed (bs.take n).length status = h.echoed bs.length status := by
    rw [echoed, echoed, htotal, htotal']
  rw [echo_eq hcut, echo_eq hdecode, hechoed, htotal, htotal', List.take_take, Nat.min_self]

end Header

namespace ModelHeader

theorem decode_take (h : length ≤ n) (bs : Octets) : decode (bs.take n) = decode bs := by
  have hheader : Header.decode (bs.take n) = Header.decode bs :=
    Header.decode_take (Nat.le_trans (by decide) h) bs
  have hword : Layout.number 2 ((bs.take n).drop 22) = Layout.number 2 (bs.drop 22) :=
    Layout.number_drop_take h bs
  rw [decode, decode, hheader, ensureLength_take h, hword]

/-- A header that is cut off in front of the command type is refused. -/
theorem decode_take_of_lt {h : Header} (hheader : Header.decode bs = .ok h)
    (hhead : Header.length ≤ n) (hlt : n < length) (hn : n ≤ bs.length) :
    decode (bs.take n) = .error (.truncated length n) := by
  rw [decode, Header.decode_take hhead, hheader, bind_ok, ensureLength_take_of_lt hn hlt,
    error_bind]

theorem saysReceived_decode (bs : Octets) : SaysReceived bs (decode bs) :=
  .bind (Header.saysReceived_decode bs) fun _ => .bind (.ensureLength _) fun _ => .ok _

end ModelHeader

namespace ReadDescriptor

theorem confined_body : body.Confined :=
  .iso (.pair Layout.confined_word16 <| .pair (Layout.confined_reserved 2) <|
    .pair Layout.confined_word16 Layout.confined_word16) _ _

theorem decode_take (h : length ≤ n) (bs : Octets) : decode (bs.take n) = decode bs := by
  have hbody : body.read ((bs.take n).drop ModelHeader.length) =
      body.read (bs.drop ModelHeader.length) := confined_body.drop_take h bs
  rw [decode, decode, ensureLength_take h, hbody]

/-- A read command that is cut off in front of the end of its target is refused. -/
theorem decode_take_of_lt (hlt : n < length) (hn : n ≤ bs.length) :
    decode (bs.take n) = .error (.truncated length n) := by
  rw [decode, ensureLength_take_of_lt hn hlt, error_bind]

theorem saysReceived_decode (bs : Octets) : SaysReceived bs (decode bs) :=
  .bind (.ensureLength _) fun _ => .ok _

end ReadDescriptor

namespace Responder

variable {m : Model}

/-- The number of octets that are read of a PDU before it is answered, passed over or refused: of
commands on the entity model more than of all others, if they are for the entity. -/
def readLength (m : Model) (bs : Octets) : Nat :=
  match Header.decode bs with
  | .error _ => Header.length
  | .ok h =>
    if h.targetEntityId = m.entityId ∧ h.messageType = .command .aem then
      match ModelHeader.decode bs with
      | .error _ => ModelHeader.length
      | .ok request =>
        if request.commandType = .readDescriptor then ReadDescriptor.length else ModelHeader.length
    else Header.length

theorem length_le_readLength (m : Model) (bs : Octets) : Header.length ≤ readLength m bs := by
  unfold readLength
  split
  next => exact Nat.le_refl _
  next =>
    split
    next =>
      split
      next => decide
      next => split <;> decide
    next => exact Nat.le_refl _

theorem readLength_of_not_model {h : Header} (hdecode : Header.decode bs = .ok h)
    (hother : ¬ (h.targetEntityId = m.entityId ∧ h.messageType = .command .aem)) :
    readLength m bs = Header.length := by
  simp only [readLength, hdecode, if_neg hother]

section

variable {h : Header} (hdecode : Header.decode bs = .ok h) (hid : h.targetEntityId = m.entityId)
  (haem : h.messageType = .command .aem)
include hdecode hid haem

theorem readLength_of_model :
    readLength m bs = match ModelHeader.decode bs with
      | .error _ => ModelHeader.length
      | .ok request =>
        if request.commandType = .readDescriptor then ReadDescriptor.length
        else ModelHeader.length := by
  simp only [readLength, hdecode, if_pos (And.intro hid haem)]

theorem length_le_readLength_of_model : ModelHeader.length ≤ readLength m bs := by
  rw [readLength_of_model hdecode hid haem]
  split
  next => exact Nat.le_refl _
  next => split <;> decide

/-- The answer to a command on the entity model. -/
theorem answer_of_model : answer m bs = (do
    let request ← ModelHeader.decode bs
    if request.commandType = .entityAvailable then return some (request.respond .success [])
    if request.commandType = .readDescriptor then
      let target ← ReadDescriptor.decode bs
      return some (readDescriptor m request target)
    return some (h.echo bs Status.notImplemented.code)) := by
  have hmine : (h.targetEntityId != m.entityId || !h.messageType.isCommand) = false := by
    rw [hid, haem, bne_self_eq_false]
    rfl
  have hclass : (h.messageType != .command .aem) = false := by
    rw [haem, bne_self_eq_false]
  simp only [answer, hdecode, bind_ok, hmine, hclass, Bool.false_eq_true, if_false]

end

/-! ## What is cut off -/

section

variable {control : ControlHeader} (hcontrol : ControlHeader.decodeExpecting .aecp bs = .ok control)
  (hlong : control.declared ≤ bs.length)
include hcontrol hlong

/-- A command whose declared length covers all that is read is answered from what was declared. -/
theorem answer_take (hread : readLength m bs ≤ control.declared) :
    answer m (bs.take control.declared) = answer m bs := by
  have hhead : Header.length ≤ control.declared :=
    Nat.le_trans (length_le_readLength m bs) hread
  have hheader := Header.decode_take hhead bs
  cases hdecode : Header.decode bs with
  | error e => rw [answer, answer, hheader, hdecode, error_bind, error_bind]
  | ok h =>
    have hcut := hheader.trans hdecode
    have hecho := Header.echo_take hdecode (Header.declared_eq hcontrol hdecode) hhead hlong
    by_cases hmodel : h.targetEntityId = m.entityId ∧ h.messageType = .command .aem
    · obtain ⟨hid, haem⟩ := hmodel
      have hrequest : ModelHeader.decode (bs.take control.declared) = ModelHeader.decode bs :=
        ModelHeader.decode_take
          (Nat.le_trans (length_le_readLength_of_model hdecode hid haem) hread) bs
      rw [readLength_of_model hdecode hid haem] at hread
      rw [answer_of_model hcut hid haem, answer_of_model hdecode hid haem, hrequest, hecho]
      cases hdecode' : ModelHeader.decode bs with
      | error e => rfl
      | ok request =>
        simp only [hdecode'] at hread
        simp only [bind_ok]
        by_cases htype : request.commandType = .readDescriptor
        · rw [if_pos htype] at hread
          rw [ReadDescriptor.decode_take hread]
        · simp only [if_neg htype]
    · -- nothing but the common header is read, and repeated with what follows it
      simp only [answer, hcut, hdecode, bind_ok, hecho]
      split
      next => rfl
      next hmine =>
        rw [Bool.or_eq_true, not_or, bne_iff_ne, ne_eq, Decidable.not_not] at hmine
        have hclass : (h.messageType != .command .aem) = true :=
          bne_iff_ne.mpr fun haem => hmodel ⟨hmine.1, haem⟩
        simp only [hclass, if_true]

/-- A command whose declared length does not cover all that is read is cut short by it. -/
theorem answer_take_of_lt (hread : control.declared < readLength m bs) :
    ∃ needed ∈ [Header.length, ModelHeader.length, ReadDescriptor.length],
      control.declared < needed ∧
        answer m (bs.take control.declared) = .error (.truncated needed control.declared) := by
  have htwelve : ControlHeader.length ≤ control.declared := Nat.le_add_right ..
  obtain hshort | hhead := Nat.lt_or_ge control.declared Header.length
  · -- not even the common header is there
    refine ⟨Header.length, by simp, hshort, ?_⟩
    rw [answer, Header.decode_take_of_lt hcontrol htwelve hshort hlong, error_bind]
  have hheader := Header.decode_take hhead bs
  cases hdecode : Header.decode bs with
  | error e =>
    simp only [readLength, hdecode] at hread
    exact absurd hread (Nat.not_lt.mpr hhead)
  | ok h =>
    have hcut := hheader.trans hdecode
    by_cases hmodel : h.targetEntityId = m.entityId ∧ h.messageType = .command .aem
    · obtain ⟨hid, haem⟩ := hmodel
      obtain hshort | hword := Nat.lt_or_ge control.declared ModelHeader.length
      · refine ⟨ModelHeader.length, by simp, hshort, ?_⟩
        rw [answer_of_model hcut hid haem,
          ModelHeader.decode_take_of_lt hdecode hhead hshort hlong, error_bind]
      · -- the command type is there, so that it is the target that is cut off
        rw [readLength_of_model hdecode hid haem] at hread
        cases hdecode' : ModelHeader.decode bs with
        | error e =>
          simp only [hdecode'] at hread
          exact absurd hread (Nat.not_lt.mpr hword)
        | ok request =>
          simp only [hdecode'] at hread
          by_cases htype : request.commandType = .readDescriptor
          · rw [if_pos htype] at hread
            have havailable : request.commandType ≠ .entityAvailable := htype ▸ by decide
            refine ⟨ReadDescriptor.length, by simp, hread, ?_⟩
            rw [answer_of_model hcut hid haem, ModelHeader.decode_take hword, hdecode', bind_ok,
              if_neg havailable, if_pos htype, ReadDescriptor.decode_take_of_lt hread hlong,
              error_bind]
          · rw [if_neg htype] at hread
            exact absurd hread (Nat.not_lt.mpr hword)
    · rw [readLength_of_not_model hdecode hmodel] at hread
      exact absurd hread (Nat.not_lt.mpr hhead)

end

theorem saysReceived_answer (m : Model) (bs : Octets) : SaysReceived bs (answer m bs) := by
  refine .bind (Header.saysReceived_decode bs) fun h => ?_
  split
  next => exact .ok _
  next =>
    split
    next => exact .ok _
    next =>
      refine .bind (ModelHeader.saysReceived_decode bs) fun request => ?_
      split
      next => exact .ok _
      next =>
        split
        next => exact .bind (ReadDescriptor.saysReceived_decode bs) fun _ => .ok _
        next => exact .ok _

theorem saysReceived_handle (r : Responder) (m : Model) (bs : Octets) :
    SaysReceived bs (r.handle m bs) := by
  refine .bind (saysReceived_answer m bs) fun o => ?_
  cases o with
  | none => exact .ok _
  | some response => exact .ok _

/-- What becomes of octets that are cut off behind the first `n`. -/
structure Indifferent (r : Responder) (m : Model) (bs : Octets) (n : Nat) : Prop where
  /-- The octets behind do not matter if and only if nothing of them is read, or there are none. -/
  same_iff : r.handle m (bs.take n) = r.handle m bs ↔ readLength m bs ≤ n ∨ n = bs.length
  /-- Without the octets behind a command is refused if some of them are read. -/
  refused : n < readLength m bs →
    ∃ needed ∈ [Header.length, ModelHeader.length, ReadDescriptor.length],
      n < needed ∧ r.handle m (bs.take n) = .error (.truncated needed n)
  /-- If nothing of them is read, the same is sent, wherever the frame came from. -/
  sends : readLength m bs ≤ n → ∀ (e : Endpoint) (src dest : Mac) (now : Time) (accepted : Bool),
    e.model = m → e.responder = r →
    e.receive ⟨src, dest, Frame.controlType, bs.take n⟩ now accepted =
      e.receive ⟨src, dest, Frame.controlType, bs⟩ now accepted
  /-- What is refused has no effect. -/
  silent : n < readLength m bs →
    ∀ (e : Endpoint) (src dest : Mac) (now : Time) (accepted : Bool),
    e.model = m → e.responder = r →
    e.receive ⟨src, dest, Frame.controlType, bs.take n⟩ now accepted = (e, [])

/-- **When what follows the declared length matters**: it does for the commands on the entity model
that end before they were read, and for those alone. -/
theorem indifferent_of_decode {control : ControlHeader}
    (hcontrol : ControlHeader.decodeExpecting .aecp bs = .ok control)
    (hlong : control.declared ≤ bs.length) (r : Responder) (m : Model) :
    r.Indifferent m bs control.declared := by
  have htwelve : ControlHeader.length ≤ control.declared := Nat.le_add_right ..
  have hpeek : peekSubtype bs = .ok .aecp := ControlHeader.peekSubtype_of_decodeExpecting hcontrol
  have hpeek' : peekSubtype (bs.take control.declared) = .ok .aecp :=
    ControlHeader.peekSubtype_of_decodeExpecting
      ((ControlHeader.decodeExpecting_take htwelve .aecp bs).trans hcontrol)
  have hsame : readLength m bs ≤ control.declared →
      r.handle m (bs.take control.declared) = r.handle m bs := by
    intro hread
    rw [handle, handle, answer_take hcontrol hlong hread]
  have hrefused : control.declared < readLength m bs →
      ∃ needed ∈ [Header.length, ModelHeader.length, ReadDescriptor.length],
        control.declared < needed ∧ r.handle m (bs.take control.declared) =
          .error (.truncated needed control.declared) := by
    intro hread
    obtain ⟨needed, hmem, hlt, hanswer⟩ := answer_take_of_lt hcontrol hlong hread
    exact ⟨needed, hmem, hlt, by rw [handle, hanswer, error_bind]⟩
  constructor
  case same_iff =>
    constructor
    · intro heq
      refine (Nat.lt_or_ge control.declared (readLength m bs)).symm.imp_right fun hread => ?_
      -- the fault says how many octets there were, so there were as many
      obtain ⟨needed, -, -, herror⟩ := hrefused hread
      exact saysReceived_handle r m bs needed control.declared (heq ▸ herror)
    · rintro (hread | hall)
      · exact hsame hread
      · rw [hall, List.take_length]
  case refused => exact hrefused
  case sends =>
    rintro hread e src dest now accepted rfl rfl
    have heq := hsame hread
    cases hhandle : e.responder.handle e.model bs with
    | error fault =>
      rw [Endpoint.receive_of_handle_error ⟨src, dest, Frame.controlType, bs⟩ hpeek hhandle,
        Endpoint.receive_of_handle_error ⟨src, dest, Frame.controlType, _⟩ hpeek'
          (heq.trans hhandle)]
    | ok result =>
      rw [Endpoint.receive_of_handle ⟨src, dest, Frame.controlType, bs⟩ rfl hhandle,
        Endpoint.receive_of_handle ⟨src, dest, Frame.controlType, _⟩ rfl (heq.trans hhandle)]
  case silent =>
    rintro hread e src dest now accepted rfl rfl
    obtain ⟨needed, -, -, herror⟩ := hrefused hread
    exact Endpoint.receive_of_handle_error ⟨src, dest, Frame.controlType, _⟩ hpeek' herror now
      accepted

/-- A read command on the ENTITY, in a frame that was filled up. -/
def readEntity : Octets :=
  ModelHeader.command Model.duplex.entityId .zero 7 .readDescriptor
    (ReadDescriptor.body.write ⟨0, Kind.entity.code, 0⟩) ++ .replicate 14 0

/-- The filling is not read. -/
theorem indifferent_readEntity :
    ∃ control, ControlHeader.decodeExpecting .aecp readEntity = .ok control ∧
      control.declared ≤ readEntity.length ∧ control.declared = 32 ∧
      Indifferent {} .duplex readEntity control.declared := by
  have hcontrol : (ControlHeader.decodeExpecting .aecp readEntity).toOption =
      some (.of .aecp 0 0 20 Model.duplex.entityId) := by decide +kernel
  exact ⟨_, toOption_eq_some.mp hcontrol, by decide +kernel, by decide +kernel,
    indifferent_of_decode (toOption_eq_some.mp hcontrol) (by decide +kernel) {} .duplex⟩

/-- A read command that says that it ends before its target. -/
def readNothing : Octets :=
  ModelHeader.command Model.duplex.entityId .zero 7 .readDescriptor []

/-- **The filling of a frame completes a command**: a read command without a target is refused, but
in a frame it is filled up with zeros, and the ENTITY is served. -/
theorem not_same_of_filled :
    ∃ control filled, Model.build .duplex .duplex = .ok .duplex ∧
      (Frame.parse (Frame.encode ⟨.zero, .duplex, Frame.controlType, readNothing⟩)).map
        (·.payload) = some filled ∧
      ControlHeader.decodeExpecting .aecp filled = .ok control ∧
      control.declared ≤ filled.length ∧ filled.take control.declared = readNothing ∧
      handle {} .duplex readNothing = .error (.truncated 32 24) ∧
      ∃ response, handle {} .duplex filled = .ok ({ count := 1 }, some response) := by
  have hpayload : (Frame.parse (Frame.encode ⟨.zero, .duplex, Frame.controlType, readNothing⟩)).map
      (·.payload) = some (readNothing ++ .replicate 22 0) := by decide +kernel
  have hcontrol : (ControlHeader.decodeExpecting .aecp (readNothing ++ .replicate 22 0)).toOption =
      some (.of .aecp 0 0 12 Model.duplex.entityId) := by decide +kernel
  have hcut : (readNothing ++ .replicate 22 0).take 24 = readNothing := by decide +kernel
  exact ⟨_, _, Model.build_duplex, hpayload, toOption_eq_some.mp hcontrol, by decide +kernel, hcut,
    rfl, _, rfl⟩

end Responder

end Enumeration

end AvbEntity

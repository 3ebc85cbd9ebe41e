import AvbEntity.Proofs.Connection.Manager
import AvbEntity.Proofs.Connection.Numbering

/-!
# A command that is rejected changes nothing

A controller's command can fail at five places, one of them behind the storing of the command in its
slot. Wherever it fails, the controller is told once, with the status of the first reason that
applies, and the streams and the slots are as before. A command that does not fail is passed on to
the talker as it is, under a number that none of the last 65535 commands had.

## Main definitions

* `Relay.rejection`: the status with which a command is rejected, if it is
* `Relay.Rejected`, `Relay.PassedOn`: what a command leads to that is rejected or not
* `Relay.Fresh`: a number that was not used lately

## Main results

* `Relay.sequenceId_of_passed`: the commands that are passed on are numbered one after another
* `Relay.rejected_or_passedOn`: a controller's command is rejected or passed on
* `Manager.atomic_of_request`: the same in every state, and the number that is fresh there
-/

namespace AvbEntity

theorem Sink.isBoundTo_iff {s : Sink} {talkerEntityId : Eui64} {talkerUniqueId : UInt16} :
    s.isBoundTo talkerEntityId talkerUniqueId = true ↔
      s.connected ∧ s.talkerEntityId = talkerEntityId ∧ s.talkerUniqueId = talkerUniqueId := by
  simp [isBoundTo, and_assoc]

namespace Connection

namespace Relay

/-! ## Fresh numbers -/

/-- A command that a step passes on has the next number. -/
theorem sequenceId_of_passedOn {r : Relay} {s : Event} {q : Pdu} (hq : q ∈ r.passedOn s) :
    q.sequenceId = r.nextSequenceId := by
  have hend := r.numbered s
  generalize r.passedOn s = sent, (r.step s).1 = r' at hend hq
  cases hend with
  | stored hx htype hsink hinsert => rw [List.mem_singleton.mp hq]; rfl
  | unsent => rw [List.mem_singleton.mp hq]; rfl
  | freed => exact absurd hq List.not_mem_nil
  | kept => exact absurd hq List.not_mem_nil
  | ticked => exact absurd hq List.not_mem_nil

/-- The commands that a run passes on are numbered one after another. -/
theorem sequenceId_of_passed {r : Relay} {run : List Event} {before since : List Pdu} {q : Pdu}
    (h : r.passed run = before ++ q :: since) :
    q.sequenceId = r.nextSequenceId + .ofNat before.length := by
  induction run generalizing r before with
  | nil => exact absurd h.symm (List.append_ne_nil_of_right_ne_nil _ (List.cons_ne_nil _ _))
  | cons s run ih =>
    have hlate : ∀ {before'}, (r.step s).1.passed run = before' ++ q :: since →
        q.sequenceId = r.nextSequenceId + .ofNat ((r.passedOn s).length + before'.length) := by
      intro before' h'
      rw [ih h', nextSequenceId_step, UInt16.ofNat_add, UInt16.add_assoc]
    have hone := r.length_passedOn_le s
    rw [passed] at h
    cases hpassed : r.passedOn s with
    | nil =>
      rw [hpassed, List.nil_append] at h
      rw [hlate h, hpassed, List.length_nil, Nat.zero_add]
    | cons q₀ others =>
      rw [hpassed, List.length_cons] at hone
      obtain rfl : others = [] := List.length_eq_zero_iff.mp (by omega)
      rw [hpassed, List.singleton_append] at h
      cases before with
      | nil =>
        obtain ⟨rfl, -⟩ := List.cons.inj h
        rw [sequenceId_of_passedOn (hpassed ▸ List.mem_singleton_self _)]
        exact (UInt16.add_zero _).symm
      | cons q₁ before =>
        rw [hlate (List.cons.inj h).2, hpassed, List.length_singleton, List.length_cons,
          Nat.add_comm]

/-- None of the last 65535 commands that a run passed on had the number. -/
def Fresh (r : Relay) (run : List Event) (sequenceId : UInt16) : Prop :=
  ∀ before q since, r.passed run = before ++ q :: since → since.length < 65535 →
    q.sequenceId ≠ sequenceId

/-- The next number is fresh. -/
theorem fresh_nextSequenceId (r : Relay) (run : List Event) :
    r.Fresh run (r.after run).nextSequenceId := by
  intro before q since hpassed hsince hsame
  have hnext : (r.after run).nextSequenceId = q.sequenceId + .ofNat (since.length + 1) := by
    rw [nextSequenceId_after, hpassed, sequenceId_of_passed hpassed, List.length_append,
      List.length_cons, UInt16.ofNat_add, UInt16.add_assoc]
  exact add_ofNat_ne q.sequenceId (Nat.succ_pos _) (by omega) (hsame.trans hnext).symm

/-! ## Rejection -/

/-- The status with which a controller's command is rejected: that of the first reason which
applies, if one does. -/
def rejection (r : Relay) (m : Model) (p : Pdu) (accepted : Bool) : Option Status :=
  match m.sink? m.current p.listenerUniqueId with
  | none => some .listenerUnknownId
  | some s =>
    if p.messageType = .command .connectRx ∧ s.connected then some .listenerExclusive
    else if p.messageType = .command .disconnectRx ∧
        ¬ (s.connected ∧ s.talkerEntityId = p.talkerEntityId ∧
          s.talkerUniqueId = p.talkerUniqueId) then some .notConnected
    else if r.inFlight.isFull then some .listenerMisbehaving
    else if accepted then none
    else some .couldNotSendMessage

/-- What a command leads to that is rejected. -/
structure Rejected (r : Relay) (m : Model) (p : Pdu) (x : Exchange) (status : Status)
    (result : Relay × Model × List Pdu) : Prop where
  /-- One response is attempted, the command but for the type and the status; and nothing else but
  the command itself, if this is what the network did not accept. -/
  sent : result.2.2 = (if status = .couldNotSendMessage then [r.outgoing p x] else []) ++
    [{ p with messageType := .response x.ofController, status }]
  model : result.2.1 = m
  inFlight : result.1.inFlight = r.inFlight
  /-- A number is used up only with a command that was attempted. -/
  number : result.1.nextSequenceId =
    if status = .couldNotSendMessage then r.nextSequenceId + 1 else r.nextSequenceId

/-- What a command leads to that is passed on. -/
structure PassedOn (r : Relay) (m : Model) (p : Pdu) (x : Exchange) (now : Time)
    (result : Relay × Model × List Pdu) (slot : Nat) : Prop where
  /-- The command is sent, but for the type, the status and the number, and nothing else. -/
  sent : result.2.2 = [{ p with
    messageType := .command x
    status := .success
    sequenceId := r.nextSequenceId }]
  model : result.2.1 = m
  free : r.inFlight.IsFirstFree slot
  /-- It is stored as it was sent. -/
  stored : result.1.inFlight.get? slot = some {
    command := { p with
      messageType := .command x
      status := .success
      sequenceId := r.nextSequenceId }
    controllerSequenceId := p.sequenceId
    deadline := now + x.timeout }
  others : ∀ i, i ≠ slot → result.1.inFlight.get? i = r.inFlight.get? i
  capacity : result.1.inFlight.capacity = r.inFlight.capacity
  number : result.1.nextSequenceId = r.nextSequenceId + 1

section

variable {r : Relay} {m : Model} {p : Pdu} {x : Exchange} {accepted : Bool} {s : Sink}

/-- A command on a stream input that is there is rejected by the state of the stream input, or else
by that of the slots. -/
theorem rejection_of_sink? (hx : x.IsRelayed) (htype : p.messageType = .command x.ofController)
    (hsink : m.sink? m.current p.listenerUniqueId = some s) :
    r.rejection m p accepted = (refusal s p x).or
      (if r.inFlight.isFull then some .listenerMisbehaving
      else if accepted then none
      else some .couldNotSendMessage) := by
  rw [rejection, hsink]
  simp only [htype]
  rcases hx with rfl | rfl
  · show _ = (if s.connected then some Status.listenerExclusive else none).or _
    cases hconnected : s.connected <;> simp [Exchange.ofController]
  · show _ = (if s.isBoundTo p.talkerEntityId p.talkerUniqueId then none
      else some Status.notConnected).or _
    simp only [← Sink.isBoundTo_iff]
    cases hbound : s.isBoundTo p.talkerEntityId p.talkerUniqueId <;> simp [Exchange.ofController]

/-- A command that is rejected on a stream input before any slot is looked for. -/
theorem rejected_of_ne {status : Status}
    (htype : p.messageType = .command x.ofController) (hstatus : status ≠ .couldNotSendMessage) :
    Rejected r m p x status (r, m, [p.respond status]) where
  sent := by
    rw [if_neg hstatus, Pdu.respond, htype]
    rfl
  model := rfl
  inFlight := rfl
  number := (if_neg hstatus).symm

theorem refusal_ne {s : Sink} {status : Status} (h : refusal s p x = some status) :
    status ≠ .couldNotSendMessage := by
  unfold refusal at h
  split at h
  · split at h
    · cases h
    · exact Option.some.inj h ▸ by decide
  · split at h
    · exact Option.some.inj h ▸ by decide
    · cases h

/-- A command is rejected for the first reason that applies, or is passed on if none does. -/
theorem rejected_or_passedOn (hx : x.IsRelayed) (htype : p.messageType = .command x.ofController)
    (now : Time) (accepted : Bool) :
    (∀ status, r.rejection m p accepted = some status →
      Rejected r m p x status (r.handle m p now accepted)) ∧
    (r.rejection m p accepted = none →
      ∃ slot, PassedOn r m p x now (r.handle m p now accepted) slot) := by
  have hhandle : r.handle m p now accepted =
      ((r.request m p x now accepted).1, m, (r.request m p x now accepted).2) := by
    rcases hx with rfl | rfl <;> rw [handle, htype] <;> rfl
  rw [hhandle]
  have hend := requested r m p x now accepted
  generalize r.request m p x now accepted = result at hend ⊢
  cases hend with
  | unknown hsink =>
    have hrejection : r.rejection m p accepted = some .listenerUnknownId := by
      rw [rejection, hsink]
    rw [hrejection]
    refine ⟨fun status h => ?_, fun h => absurd h (Option.some_ne_none _)⟩
    obtain rfl := Option.some.inj h
    exact rejected_of_ne htype (by decide)
  | refused hsink hrefusal =>
    rw [rejection_of_sink? hx htype hsink, hrefusal, Option.some_or]
    refine ⟨fun status h => ?_, fun h => absurd h (Option.some_ne_none _)⟩
    obtain rfl := Option.some.inj h
    exact rejected_of_ne htype (refusal_ne hrefusal)
  | full hsink hrefusal hfull =>
    rw [rejection_of_sink? hx htype hsink, hrefusal, Option.none_or, if_pos hfull]
    refine ⟨fun status h => ?_, fun h => absurd h (Option.some_ne_none _)⟩
    obtain rfl := Option.some.inj h
    exact rejected_of_ne htype (by decide)
  | unsent hsink hrefusal hinsert =>
    have hfree : ¬ r.inFlight.isFull := fun hfull =>
      Option.some_ne_none _ (hinsert.symm.trans (InFlight.insert_eq_none.mpr hfull))
    rw [rejection_of_sink? hx htype hsink, hrefusal, Option.none_or, if_neg hfree,
      if_neg Bool.false_ne_true]
    refine ⟨fun status h => ?_, fun h => absurd h (Option.some_ne_none _)⟩
    obtain rfl := Option.some.inj h
    refine ⟨?_, rfl, rfl, (if_pos rfl).symm⟩
    rw [if_pos rfl, Pdu.respond, htype]
    rfl
  | @forwarded s t slot hsink hrefusal hinsert =>
    have hfree : ¬ r.inFlight.isFull := fun hfull =>
      Option.some_ne_none _ (hinsert.symm.trans (InFlight.insert_eq_none.mpr hfull))
    obtain ⟨hfirst, ht⟩ := InFlight.insert_eq_some.mp hinsert
    rw [rejection_of_sink? hx htype hsink, hrefusal, Option.none_or, if_neg hfree, if_pos rfl]
    refine ⟨fun status h => absurd h (Option.some_ne_none _).symm, fun _ => ⟨slot, ?_⟩⟩
    constructor
    case sent => rfl
    case model => rfl
    case free => exact hfirst
    case stored => exact (get?_insert hinsert slot).trans (if_pos rfl)
    case others => exact fun i hi => (get?_insert hinsert i).trans (if_neg hi.symm)
    case capacity => rw [ht]; exact List.length_set
    case number => rfl

end

end Relay

namespace Manager

/-- **A controller's command is carried out or changes nothing**: after every run of the relay from
its start, whatever is in the slots and whether or not the network accepts what is sent. The command
is answered once, with the status of the first reason to reject it, while the streams and the slots
stay as they were; or there is no reason, and it is passed on under a fresh number and stored in the
first free slot. -/
theorem atomic_of_request {c : Manager} {capacity : Nat} {run : List Relay.Event}
    (hrole : c.role.isListener) (hreached : c.relay = (Relay.start capacity).after run)
    {m : Model} {p : Pdu} {x : Exchange} (hx : x.IsRelayed)
    (htype : p.messageType = .command x.ofController) (hnamed : p.listenerEntityId = m.entityId)
    (now : Time) (accepted : Bool) :
    ∃ result, c.handle m p now accepted = ({ c with relay := result.1 }, result.2) ∧
      (∀ status, c.relay.rejection m p accepted = some status →
        c.relay.Rejected m p x status result) ∧
      (c.relay.rejection m p accepted = none →
        (Relay.start capacity).Fresh run c.relay.nextSequenceId ∧
          ∃ slot, c.relay.PassedOn m p x now result slot) := by
  have hlistener : p.messageType.isForListener := by
    rcases hx with rfl | rfl <;> rw [htype] <;> rfl
  obtain ⟨hrejected, hpassedOn⟩ := Relay.rejected_or_passedOn (r := c.relay) hx htype now accepted
  have hhandle := handle_of_isForListener now accepted hrole hlistener hnamed
  refine ⟨c.relay.handle m p now accepted, hhandle, hrejected, fun h => ⟨?_, hpassedOn h⟩⟩
  rw [hreached]
  exact Relay.fresh_nextSequenceId _ _

/-- Connection management after a first command to connect, with so many slots. -/
def busy (capacity : Nat) : Manager :=
  ⟨.both, (Relay.start capacity).after [Relay.connect true]⟩

/-- A second command to connect is rejected: the network does not accept it, or there is no slot
for it. -/
theorem atomic_connects :
    (∃ result, (busy 2).handle .duplex (.duplex .connectRx 8) 5 false =
        ({ busy 2 with relay := result.1 }, result.2) ∧
      (busy 2).relay.Rejected .duplex (.duplex .connectRx 8) .connectTx .couldNotSendMessage
        result) ∧
    ∃ result, (busy 1).handle .duplex (.duplex .connectRx 8) 5 true =
        ({ busy 1 with relay := result.1 }, result.2) ∧
      (busy 1).relay.Rejected .duplex (.duplex .connectRx 8) .connectTx .listenerMisbehaving
        result := by
  have hrequest (capacity : Nat) := atomic_of_request (c := busy capacity) rfl rfl (m := .duplex)
    (p := .duplex .connectRx 8) (.inl rfl) rfl rfl 5
  obtain ⟨unsent, hunsent, hrejected, -⟩ := hrequest 2 false
  obtain ⟨full, hfull, hrejected', -⟩ := hrequest 1 true
  exact ⟨⟨unsent, hunsent, hrejected _ (by decide)⟩, ⟨full, hfull, hrejected' _ (by decide)⟩⟩

end Manager

end Connection

end AvbEntity

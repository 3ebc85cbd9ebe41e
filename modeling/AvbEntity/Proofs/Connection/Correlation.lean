import AvbEntity.Proofs.Connection.Numbering

/-!
# Which command an answer is for

The relay matches a talker's answer with a command in flight by the type of the message and by the
sequence number, and by nothing else. The command was asked for by a controller, and its slot is
freed; but the stream input and the talker that are connected, and the controller that hears of it,
are those of the answer. They are the ones that the controller asked for where the answer repeats
them, as the answer of a talker does, and a PDU that only carries the right number may name others.

## Main definitions

* `Pdu.Repeats`: an answer is about the streams and the controller of a command
* `Relay.Judged.Changes`, `Relay.Grants`: what an answer changes, and what a controller asked for
* `Relay.Correlated`: what an answer does that is acted on
* `Tree.rivals`, `Model.rivals`: an entity with two stream inputs

## Main results

* `Relay.correlated_of_acts`: an answer that is acted on is for a command that a controller asked
  for
* `Relay.not_repeats_of_foreign`: it need not repeat that command
-/

namespace AvbEntity

namespace Connection

/-- An answer is about the streams and the controller of a command. -/
structure Pdu.Repeats (answer command : Pdu) : Prop where
  talkerEntityId : answer.talkerEntityId = command.talkerEntityId
  talkerUniqueId : answer.talkerUniqueId = command.talkerUniqueId
  listenerUniqueId : answer.listenerUniqueId = command.listenerUniqueId
  controllerEntityId : answer.controllerEntityId = command.controllerEntityId

namespace Relay

/-! ## What an answer makes of a stream input -/

/-- A stream input that an answer changes becomes connected as the answer says, and was free before,
or is freed of the connection to the talker that the answer names. -/
inductive Judged.Changes (s : Sink) (p : Pdu) : Exchange → Sink → Prop
  | connected (hagreed : p.status = .success) (hfree : s.connected = false) :
    Changes s p .connectTx (.recorded s.listenerUniqueId p)
  | disconnected (hagreed : p.status = .success)
    (hbound : s.isBoundTo p.talkerEntityId p.talkerUniqueId) :
    Changes s p .disconnectTx (.fresh s.listenerUniqueId)

theorem Judged.changes {s s' : Sink} {p : Pdu} {x : Exchange} {status : Status}
    (h : Judged s p x (s', status)) (hne : s' ≠ s) : Judged.Changes s p x s' := by
  cases h with
  | refused hrefused => exact absurd rfl hne
  | connected hagreed hfree => exact .connected hagreed hfree
  | exclusive hagreed hconnected => exact absurd rfl hne
  | disconnected hagreed hbound => exact .disconnected hagreed hbound
  | misbehaving hagreed hunbound => exact absurd rfl hne

/-- The change that a controller asked for: its stream input becomes connected to its talker, in its
name, or is freed of the connection to its talker. -/
inductive Grants (request : Pdu) (s : Sink) : Sink → Prop
  | connects {s' : Sink} (htype : request.messageType = .command .connectRx)
    (hfree : s.connected = false)
    (hbound : s'.isBoundTo request.talkerEntityId request.talkerUniqueId)
    (hcontroller : s'.controllerEntityId = request.controllerEntityId) : Grants request s s'
  | disconnects (htype : request.messageType = .command .disconnectRx)
    (hbound : s.isBoundTo request.talkerEntityId request.talkerUniqueId) :
    Grants request s (.fresh s.listenerUniqueId)

/-! ## An answer that is acted on -/

/-- What an answer does that is acted on after a run: `slot` and `e` are the slot and the command
which it is for, `o` is the event of the run at which a controller asked for the command, and
`result` is the relay, the model and the PDUs to send that it leads to. -/
structure Correlated (r : Relay) (run : List Event) (m : Model) (p : Pdu) (x : Exchange)
    (result : Relay × Model × List Pdu) (slot : Nat) (e : Entry) (o : Origin) : Prop where
  /-- The command is the first one of this type and under this number. -/
  first : (r.after run).inFlight.IsFirstFor (.command x) p.sequenceId slot e
  /-- A controller asked for it in the run. -/
  past : o.run = run
  exchange : o.exchange = x
  origin : o.Explains r slot e
  /-- Its slot is freed, and no other one changes. -/
  relay : result.1 = { r.after run with inFlight := (r.after run).inFlight.remove slot }
  /-- The stream input that the answer names is judged by it and by nothing else. There is one
  reply: what the answer says, with the outcome, under the number of the controller's command. -/
  judged : ∃ s s' status, m.sink? m.current p.listenerUniqueId = some s ∧
    Judged s p x (s', status) ∧
    result.2.1 = (m.modifySink m.current p.listenerUniqueId fun _ => s') ∧
    result.2.2 = [{ p with
      messageType := .response x.ofController
      status
      sequenceId := e.controllerSequenceId }]
  /-- No other stream changes. -/
  sinks : ∀ c u, (m.current, p.listenerUniqueId) ≠ (c, u) → result.2.1.sink? c u = m.sink? c u
  sources : ∀ c v, result.2.1.source? c v = m.source? c v
  /-- A stream input that is not as it was before is the one that the answer names. It is connected
  as the answer says, or freed of the connection to the talker that the answer names. -/
  changes : ∀ c u s s', m.sink? c u = some s → result.2.1.sink? c u = some s' → s' ≠ s →
    c = m.current ∧ u = p.listenerUniqueId ∧ Judged.Changes s p x s'
  /-- The reply to an answer that repeats the command names the controller that asked. -/
  named : p.Repeats e.command → ∀ q ∈ result.2.2,
    q.controllerEntityId = o.request.controllerEntityId ∧ q.sequenceId = o.request.sequenceId
  /-- It changes nothing but what that controller asked for. -/
  asked : p.Repeats e.command → ∀ c u s s', m.sink? c u = some s →
    result.2.1.sink? c u = some s' → s' ≠ s →
      c = m.current ∧ u = o.request.listenerUniqueId ∧ Grants o.request s s'

section

variable {r : Relay} {run : List Event} {m : Model} {p : Pdu} {x : Exchange} {s s' : Sink}
  {slot : Nat} {e : Entry} {o : Origin}

/-- A stream input that is not as before is the one that was modified. -/
theorem eq_of_modifySink {c u i j : UInt16} {s₀ : Sink} (hsink : m.sink? i j = some s)
    (hs₀ : m.sink? c u = some s₀) {s₁ : Sink}
    (hs₁ : (m.modifySink i j fun _ => s').sink? c u = some s₁) (hne : s₁ ≠ s₀) :
    c = i ∧ u = j ∧ s₀ = s ∧ s₁ = s' := by
  rw [Model.sink?_modifySink, hs₀] at hs₁
  split at hs₁
  next h =>
    obtain ⟨rfl, rfl⟩ := h
    exact ⟨rfl, rfl, Option.some.inj (hs₀.symm.trans hsink), (Option.some.inj hs₁).symm⟩
  next => exact absurd (Option.some.inj hs₁).symm hne

/-- An answer that repeats the command makes the change that the controller asked for. -/
theorem Judged.Changes.grants (h : Judged.Changes s p x s') (ho : o.Explains r slot e)
    (hx : o.exchange = x) (hrepeats : p.Repeats e.command) : Grants o.request s s' := by
  obtain ⟨hentity, hunique, -, hcontroller⟩ := hrepeats
  rw [ho.command] at hentity hunique hcontroller
  have htype := ho.asked
  rw [hx] at htype
  cases h with
  | connected hagreed hfree =>
    refine .connects htype hfree ?_ hcontroller
    simp [Sink.isBoundTo, Sink.recorded, hentity, hunique, outgoing]
  | disconnected hagreed hbound =>
    rw [hentity, hunique] at hbound
    exact .disconnects htype hbound

/-- The result of an answer that finds its command after a run from empty slots. -/
theorem correlated_of_take? (hempty : ∀ slot, r.inFlight.get? slot = none) (hx : x.IsRelayed)
    {t : InFlight} (hsink : m.sink? m.current p.listenerUniqueId = some s)
    (htake : (r.after run).inFlight.take? (.command x) p.sequenceId = some (e, t)) :
    ∃ slot o, t = (r.after run).inFlight.remove slot ∧
      r.Correlated run m p x
        ({ r.after run with inFlight := t },
          m.modifySink m.current p.listenerUniqueId fun _ => (conclude s p x).1,
          [reply s p x e]) slot e o := by
  obtain ⟨slot, hfirst, rfl⟩ := InFlight.take?_eq_some.mp htake
  obtain ⟨o, hrun, ho⟩ := exists_origin hempty hfirst.get
  have hexchange : o.exchange = x := by
    have htype := (Entry.isFor_iff.mp hfirst.matching).1
    rw [ho.command] at htype
    exact MessageType.command.inj htype
  have hjudged := Relay.judged s p hx
  have hchanges : ∀ c u s₀ s₁, m.sink? c u = some s₀ →
      (m.modifySink m.current p.listenerUniqueId fun _ => (conclude s p x).1).sink? c u =
        some s₁ → s₁ ≠ s₀ →
      c = m.current ∧ u = p.listenerUniqueId ∧ Judged.Changes s₀ p x s₁ := by
    intro c u s₀ s₁ hs₀ hs₁ hne
    obtain ⟨hc, hu, rfl, rfl⟩ := eq_of_modifySink hsink hs₀ hs₁ hne
    exact ⟨hc, hu, hjudged.changes hne⟩
  refine ⟨slot, o, rfl, ?_⟩
  constructor
  case first => exact hfirst
  case past => exact hrun
  case exchange => exact hexchange
  case origin => exact ho
  case relay => rfl
  case judged => exact ⟨s, _, _, hsink, hjudged, rfl, rfl⟩
  case sinks =>
    intro c u hcu
    rw [Model.sink?_modifySink, if_neg fun h => hcu (Prod.ext h.1 h.2)]
  case sources =>
    intro c v
    exact Model.source?_modifySink ..
  case changes => exact hchanges
  case named =>
    intro hrepeats q hq
    obtain rfl := List.mem_singleton.mp hq
    have hcontroller := hrepeats.controllerEntityId
    rw [ho.command] at hcontroller
    exact ⟨hcontroller, ho.number⟩
  case asked =>
    intro hrepeats c u s₀ s₁ hs₀ hs₁ hne
    obtain ⟨hc, hu, hchange⟩ := hchanges c u s₀ s₁ hs₀ hs₁ hne
    have hlistener := hrepeats.listenerUniqueId
    rw [ho.command] at hlistener
    exact ⟨hc, hu.trans hlistener, hchange.grants ho hexchange hrepeats⟩

end

/-- **An answer is for a command that a controller asked for**: an answer that frees a slot, or that
changes a stream, after any run of the relay from its start, is taken for the first command in
flight of its type and under its number. Only the stream input that it names can change, to or from
the talker that it names; where it repeats the command, these are what the controller asked for. -/
theorem correlated_of_acts {capacity : Nat} {run : List Event} {m : Model} {p : Pdu} {now : Time}
    {accepted : Bool} {x : Exchange} (htype : p.messageType = .response x)
    (hacts : (∃ slot, ((start capacity).after run).Frees slot (.pdu m p now accepted)) ∨
      (((start capacity).after run).handle m p now accepted).2.1 ≠ m) :
    ∃ slot e o, (∀ i, ((start capacity).after run).Frees i (.pdu m p now accepted) ↔ i = slot) ∧
      (start capacity).Correlated run m p x
        (((start capacity).after run).handle m p now accepted) slot e o := by
  have hidle : ∀ sent, ((start capacity).after run).handle m p now accepted =
      ((start capacity).after run, m, sent) → False := by
    intro sent hresult
    rcases hacts with ⟨slot, hbefore, hafter⟩ | hmodel
    · rw [step, hresult] at hafter
      exact hbefore hafter
    · rw [hresult] at hmodel
      exact hmodel rfl
  have hend := handled ((start capacity).after run) m p now accepted
  generalize hresult : ((start capacity).after run).handle m p now accepted = result
    at hend hidle ⊢
  cases hend with
  | request hx htype' => exact absurd (htype'.symm.trans htype) MessageType.noConfusion
  | describe htype' => exact absurd (htype'.symm.trans htype) MessageType.noConfusion
  | ignored htype' => exact (hidle _ rfl).elim
  | @settle y hx htype' =>
    obtain rfl := MessageType.response.inj (htype'.symm.trans htype)
    have hend := settled ((start capacity).after run) m p y
    generalize ((start capacity).after run).settle m p y = result at hend hidle hresult ⊢
    cases hend with
    | unknown hsink => exact (hidle _ rfl).elim
    | unsolicited hsink htake => exact (hidle _ rfl).elim
    | @answered s e t hsink htake =>
      obtain ⟨slot, o, rfl, hcorrelated⟩ :=
        correlated_of_take? (get?_start capacity) hx hsink htake
      refine ⟨slot, e, o, fun i => ?_, hcorrelated⟩
      rw [Frees, step, hresult]
      constructor
      · rintro ⟨hbefore, hafter⟩
        by_contra hi
        rw [InFlight.get?_remove_of_ne _ (Ne.symm hi)] at hafter
        exact hbefore hafter
      · rintro rfl
        exact ⟨hcorrelated.first.get ▸ Option.some_ne_none e, InFlight.get?_remove_self ..⟩

/-- The talker's answer to a command that is in flight. -/
theorem correlated_connect :
    ((start 2).after [connect true]).Frees 0
        (.pdu .duplex { Pdu.duplex .connectTx 0 with messageType := .response .connectTx } 5 true) ∧
      ∃ o, (start 2).Correlated [connect true] .duplex
        { Pdu.duplex .connectTx 0 with messageType := .response .connectTx } .connectTx
        (((start 2).after [connect true]).handle .duplex
          { Pdu.duplex .connectTx 0 with messageType := .response .connectTx } 5 true) 0
        { command := .duplex .connectTx 0, controllerSequenceId := 7, deadline := 2000 } o := by
  have hfrees : ((start 2).after [connect true]).Frees 0
      (.pdu .duplex { Pdu.duplex .connectTx 0 with messageType := .response .connectTx } 5 true) :=
    ⟨by decide, by decide⟩
  obtain ⟨slot, e, o, hslot, h⟩ := correlated_of_acts rfl (.inl ⟨0, hfrees⟩)
  obtain rfl := (hslot 0).mp hfrees
  have hentry : ((start 2).after [connect true]).inFlight.get? 0 =
      some { command := .duplex .connectTx 0, controllerSequenceId := 7, deadline := 2000 } := by
    decide
  obtain rfl := Option.some.inj (hentry.symm.trans h.first.get)
  exact ⟨hfrees, o, h⟩

end Relay

end Connection

/-! ## An answer that names another stream -/

/-- Two stream inputs and one stream output. -/
def Tree.rivals : Tree where
  configurations := [{ descriptors :=
    [.numbered 0 (.stream .input {}), .numbered 0 (.stream .input {}),
      .numbered 0 (.stream .output {})] }]

/-- What is built of the tree on the interface. -/
def Model.rivals : Model where
  entity := {
    entityId := .ofMac .duplex
    talkerStreamSources := 1
    listenerStreamSinks := 2
    configurationsCount := 1 }
  configurations := [{
    index := 0
    summary := { descriptorCounts := [⟨Kind.streamInput.code, 2⟩, ⟨Kind.streamOutput.code, 1⟩] }
    descriptors :=
      [.numbered 0 (.stream .input {}), .numbered 1 (.stream .input {}),
        .numbered 0 (.stream .output {})]
    sinks := [.fresh 0, .fresh 1]
    sources := [.fresh 0] }]

theorem Model.build_rivals : build .rivals .duplex = .ok .rivals :=
  toOption_eq_some.mp (by decide +kernel)

namespace Connection

/-- The success of another talker, for another stream input and another controller, under the number
of the first command. -/
def Pdu.foreign : Pdu where
  messageType := .response .connectTx
  controllerEntityId := ⟨3⟩
  talkerEntityId := ⟨9⟩
  listenerEntityId := Model.rivals.entityId
  talkerUniqueId := 4
  listenerUniqueId := 1

namespace Relay

/-- An answer that repeats nothing of the command ends it all the same: its slot is freed, and an
input is connected that no controller asked for. -/
theorem not_repeats_of_foreign :
    let r := (start 1).after [.pdu .rivals (.duplex .connectRx 7) 0 true]
    let result := r.handle .rivals .foreign 5 true
    Model.build .rivals .duplex = .ok .rivals ∧
      Pdu.foreign.listenerEntityId = Model.rivals.entityId ∧
      r.Frees 0 (.pdu .rivals .foreign 5 true) ∧
      (result.2.1.sink? 0 1).map (·.isBoundTo ⟨9⟩ 4) = some true ∧
      result.2.2 = [{ Pdu.foreign with messageType := .response .connectRx, sequenceId := 7 }] ∧
      ∃ e, r.inFlight.get? 0 = some e ∧ e.command.listenerUniqueId = 0 ∧
        e.command.controllerEntityId = .zero ∧ ¬ Pdu.foreign.Repeats e.command := by
  refine ⟨Model.build_rivals, rfl, ⟨by decide, by decide⟩, by decide, by decide, ?_⟩
  refine ⟨{ command := .duplex .connectTx 0, controllerSequenceId := 7, deadline := 2000 },
    by decide, rfl, rfl, fun h => ?_⟩
  exact absurd h.listenerUniqueId (by decide)

end Relay

end Connection

end AvbEntity

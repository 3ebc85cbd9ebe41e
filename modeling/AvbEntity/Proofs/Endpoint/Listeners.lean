import AvbEntity.Proofs.Connection.Talker
import AvbEntity.Proofs.Endpoint.Run
import AvbEntity.Proofs.Model.Build

/-!
# The listeners of a stream output

Of all that an entity hears, only the commands that name one of its stream outputs change who is
connected to it. After any run the listeners of a stream output are those that these commands, one
after another, make of the empty list, and a controller that asks for the connections by number
reads exactly this list.

## Main definitions

* `Endpoint.commandOn`, `Endpoint.commandsOn`: the commands on a stream output that a step and a
  run hand over
* `Endpoint.SourceStep`: what a step can do to a stream output
* `Endpoint.Asks`, `Endpoint.named`: the connections asked for one by one, and those answered
* `Endpoint.SourceHistory`: what a stream output is after a run, and how it answers

## Main results

* `Endpoint.sourceStep`, `Endpoint.source_after`: one step, and a run
* `Endpoint.named_asks`: what is read by asking for the connections one by one
* `Endpoint.sourceHistory_after`: the stream outputs of a built entity after every run
-/

namespace AvbEntity.Endpoint

open Connection (Manager Pdu)
open Connection.Talker (Followed IsAnswer act follow followed)

/-! ## Commands on a stream output -/

/-- The command on a stream output that a step hands over: one for the talker that names the entity
and the stream output. -/
def commandOn (e : Endpoint) (v : UInt16) (t : Step) : Option Pdu :=
  (e.heard t).filter fun p =>
    p.messageType.isForTalker && p.talkerEntityId == e.model.entityId && p.talkerUniqueId == v

/-- The commands on a stream output that a run hands over, in turn. -/
def commandsOn (e : Endpoint) (v : UInt16) : List Step → List Pdu
  | [] => []
  | t :: steps => (e.commandOn v t).toList ++ (e.step t).1.commandsOn v steps

variable {e : Endpoint} {v : UInt16} {t : Step} {p : Pdu}

theorem commandOn_eq_some : e.commandOn v t = some p ↔ e.heard t = some p ∧
    p.messageType.isForTalker ∧ p.talkerEntityId = e.model.entityId ∧ p.talkerUniqueId = v := by
  rw [commandOn, Option.filter_eq_some_iff, Bool.and_eq_true, Bool.and_eq_true, beq_iff_eq,
    beq_iff_eq, and_assoc]

/-- A command is answered by the talker. -/
theorem step_of_commandOn (hrole : e.connections.role.isTalker) (h : e.commandOn v t = some p) :
    (e.step t).1.model = (Connection.Talker.respond e.model p).1 ∧
      connectionPdus (e.step t).2 =
        (Connection.Talker.respond e.model p).2.map (·.received) := by
  obtain ⟨hheard, htype, hnamed, -⟩ := commandOn_eq_some.mp h
  obtain ⟨frame, now, accepted, rfl, hcontrol, hstarted, hdecode⟩ := heard_eq_some.mp hheard
  rw [step, receive_of_decode hcontrol hstarted hdecode, connectionPdus_multicast,
    Manager.handle_of_isForTalker now accepted hrole htype hnamed]
  exact ⟨rfl, rfl⟩

/-! ## One step -/

/-- What a step can do to a stream output. -/
inductive SourceStep (e : Endpoint) (v : UInt16) (t : Step) (s : Source) : Source → Prop
  | kept (hnone : e.commandOn v t = none) : SourceStep e v t s s
  | published (hnone : e.commandOn v t = none) (streamId : Eui64) (streamDestMac : Mac)
    (streamVlanId : UInt16) : SourceStep e v t s (s.publish streamId streamDestMac streamVlanId)
  | commanded {p answer : Pdu} {s' : Source} (hcommand : e.commandOn v t = some p)
    (hact : act s p = some (s', answer))
    (hsent : connectionPdus (e.step t).2 = [answer.received]) : SourceStep e v t s s'

/-- Every step does one of these things to a stream output. -/
theorem sourceStep (hrole : e.connections.role.isTalker) (t : Step) {s : Source}
    (hs : e.model.source? e.model.current v = some s) :
    ∃ s', (e.step t).1.model.source? e.model.current v = some s' ∧ e.SourceStep v t s s' := by
  cases hcommand : e.commandOn v t with
  | some p =>
    obtain ⟨-, htype, -, rfl⟩ := commandOn_eq_some.mp hcommand
    obtain ⟨hmodel, hsent⟩ := step_of_commandOn hrole hcommand
    have hend := Connection.Talker.responded e.model htype
    generalize Connection.Talker.respond e.model p = result at hend hmodel hsent
    cases hend with
    | unknown hsource => exact absurd (hsource.symm.trans hs) (Option.some_ne_none s).symm
    | @answered s₀ s' answer hsource hact =>
      obtain rfl := Option.some.inj (hsource.symm.trans hs)
      refine ⟨s', ?_, .commanded hcommand hact hsent⟩
      rw [hmodel, Model.source?_modifySource, if_pos ⟨rfl, rfl⟩, hs]
      rfl
  | none =>
    have hstep := connectionStep e t
    generalize (e.step t).1.connections = c, (e.step t).1.model = m,
      connectionPdus (e.step t).2 = sent at hstep ⊢
    cases hstep with
    | @heard frame now accepted p hcontrol hstarted hdecode =>
      refine ⟨s, ?_, .kept hcommand⟩
      have hend := e.connections.handled e.model p now accepted
      generalize e.connections.handle e.model p now accepted = result at hend ⊢
      cases hend with
      | talker htype hrole hnamed =>
        -- the command names another stream output, or it would be one on this
        rw [Connection.Talker.sources_respond e.model htype, hs]
        rintro ⟨-, rfl⟩
        have hheard : e.heard (.receive frame now accepted) = some p :=
          heard_eq_some.mpr ⟨frame, now, accepted, rfl, hcontrol, hstarted, hdecode⟩
        rw [commandOn_eq_some.mpr ⟨hheard, htype, hnamed, rfl⟩] at hcommand
        exact Option.some_ne_none p hcommand
      | listener htype hrole hnamed => rw [Connection.Relay.source?_handle, hs]
      | ignored htype => exact hs
    | ticked hstarted => exact ⟨s, hs, .kept hcommand⟩
    | @published configuration uniqueId streamId streamDestMac streamVlanId =>
      rw [Model.source?_modifySource]
      split
      · rw [hs]
        exact ⟨_, rfl, .published hcommand streamId streamDestMac streamVlanId⟩
      · exact ⟨s, hs, .kept hcommand⟩
    | quiet hheard => exact ⟨s, hs, .kept hcommand⟩

/-- The counter keeps counting, and the listeners follow the command. -/
theorem SourceStep.listeners {s s' : Source} (h : e.SourceStep v t s s') (hs : s.Counts) :
    s'.Counts ∧ s'.listeners = (e.commandOn v t).toList.foldl follow s.listeners := by
  cases h with
  | kept hnone => exact ⟨hs, by rw [hnone]; rfl⟩
  | published hnone streamId streamDestMac streamVlanId =>
    exact ⟨hs.publish streamId streamDestMac streamVlanId, by rw [hnone]; rfl⟩
  | commanded hcommand hact hsent =>
    have hfollowed := followed hs hact
    exact ⟨hfollowed.counts, by rw [hcommand]; exact hfollowed.listeners⟩

/-! ## Whole runs -/

/-- After a run the listeners of a stream output are what the commands on it make of those that it
had before. -/
theorem source_after (hrole : e.connections.role.isTalker) (steps : List Step) {s : Source}
    (hs : e.model.source? e.model.current v = some s) (hcounts : s.Counts) :
    ∃ s', (e.after steps).model.source? e.model.current v = some s' ∧ s'.Counts ∧
      s'.listeners = (e.commandsOn v steps).foldl follow s.listeners := by
  induction steps generalizing e s with
  | nil => exact ⟨s, hs, hcounts, rfl⟩
  | cons t steps ih =>
    obtain ⟨s₁, hs₁, hstep⟩ := sourceStep hrole t hs
    obtain ⟨hcounts₁, hlisteners₁⟩ := hstep.listeners hcounts
    have hcurrent := current_step e t
    have hrole₁ : (e.step t).1.connections.role.isTalker := by rwa [role_step]
    rw [← hcurrent] at hs₁
    obtain ⟨s₂, hs₂, hcounts₂, hlisteners₂⟩ := ih hrole₁ hs₁ hcounts₁
    refine ⟨s₂, hcurrent ▸ hs₂, hcounts₂, ?_⟩
    rw [hlisteners₂, hlisteners₁, commandsOn, List.foldl_append]

/-! ## Connections asked for one by one -/

/-- The connections of a stream output asked for one by one, from the number `i` on. -/
def Asks (e : Endpoint) (v : UInt16) : Nat → List Step → Prop
  | _, [] => True
  | i, t :: asks =>
    (∃ p, e.commandOn v t = some p ∧ p.messageType = .command .getTxConnection ∧
      p.connectionCount.toNat = i) ∧ (e.step t).1.Asks v (i + 1) asks

/-- The listeners that were named in answer. -/
def named (sent : List Outgoing) : List Listener :=
  (connectionPdus sent).filterMap fun answer =>
    if answer.status.isSuccess then some (Connection.Talker.listener answer) else none

theorem named_append (xs ys : List Outgoing) : named (xs ++ ys) = named xs ++ named ys := by
  rw [named, connectionPdus_append, List.filterMap_append]
  rfl

/-- Asking for one connection changes nothing, and names its listener if there is one. -/
theorem named_ask (hrole : e.connections.role.isTalker) {s : Source}
    (hs : e.model.source? e.model.current v = some s) (hcounts : s.Counts)
    (h : e.commandOn v t = some p) (htype : p.messageType = .command .getTxConnection) :
    (e.step t).1.model.source? e.model.current v = some s ∧
      named (e.step t).2 = s.listeners[p.connectionCount.toNat]?.toList := by
  obtain ⟨s', hs', hstep⟩ := sourceStep hrole t hs
  cases hstep with
  | kept hnone => exact absurd (hnone.symm.trans h) (Option.some_ne_none p).symm
  | published hnone => exact absurd (hnone.symm.trans h) (Option.some_ne_none p).symm
  | @commanded p' answer s' hcommand hact hsent =>
    obtain rfl := Option.some.inj (hcommand.symm.trans h)
    have hanswer := (followed hcounts hact).isAnswer
    have hkept : s' = s := by
      simp only [act, htype, Option.some.injEq, Prod.mk.injEq] at hact
      exact hact.1.symm
    refine ⟨hkept ▸ hs', ?_⟩
    rw [named, hsent, Pdu.received_eq_self hanswer.status_lt, List.filterMap_cons,
      List.filterMap_nil, hanswer.status]
    by_cases hi : p'.connectionCount.toNat < s.listeners.length
    · have hverdict : Connection.Talker.verdict s.listeners p' = .success := by
        simp only [Connection.Talker.verdict, htype, if_pos hi]
      rw [hverdict, List.getElem?_eq_getElem hi, ← hanswer.connection htype hi]
      rfl
    · have hverdict : Connection.Talker.verdict s.listeners p' = .noSuchConnection := by
        simp only [Connection.Talker.verdict, htype, if_neg hi]
      rw [hverdict, List.getElem?_eq_none (Nat.le_of_not_lt hi)]
      rfl

/-- Asking for the connections one by one names the listeners in their order. -/
theorem named_asks (hrole : e.connections.role.isTalker) {s : Source}
    (hs : e.model.source? e.model.current v = some s) (hcounts : s.Counts) {i : Nat}
    {asks : List Step} (h : e.Asks v i asks) :
    named (e.sends asks) = (s.listeners.drop i).take asks.length := by
  induction asks generalizing e i with
  | nil => rfl
  | cons t asks ih =>
    obtain ⟨⟨p, hcommand, htype, rfl⟩, hasks⟩ := h
    obtain ⟨hs₁, hnamed⟩ := named_ask hrole hs hcounts hcommand htype
    have hcurrent := current_step e t
    have hrole₁ : (e.step t).1.connections.role.isTalker := by rwa [role_step]
    rw [sends, named_append, hnamed, ih hrole₁ (hcurrent ▸ hs₁) hasks]
    generalize p.connectionCount.toNat = i
    by_cases hi : i < s.listeners.length
    · rw [List.getElem?_eq_getElem hi, List.drop_eq_getElem_cons hi]
      rfl
    · have hle := Nat.le_of_not_lt hi
      rw [List.getElem?_eq_none hle, List.drop_eq_nil_of_le hle,
        List.drop_eq_nil_of_le (Nat.le_succ_of_le hle), List.take_nil, List.take_nil]
      rfl

/-! ## The history of a stream output -/

/-- What a stream output is after a run, and how it answers. -/
structure SourceHistory (e : Endpoint) (v : UInt16) (steps : List Step) (s : Source) : Prop where
  /-- Its listeners are what the commands on it make of the empty list. -/
  listeners : s.listeners = (e.commandsOn v steps).foldl follow []
  /-- The counter has their number. -/
  count : s.connectionCount.toNat = s.listeners.length
  /-- The next command is carried out on this list, and answered from it. -/
  answered : ∀ t p, (e.after steps).commandOn v t = some p → ∃ s' answer,
    ((e.after steps).step t).1.model.source? e.model.current v = some s' ∧
    connectionPdus ((e.after steps).step t).2 = [answer] ∧ Followed s p s' answer
  /-- It leaves every other stream as it is. -/
  untouched : ∀ t p, (e.after steps).commandOn v t = some p →
    (∀ c u, ¬ (c = e.model.current ∧ u = v) →
      ((e.after steps).step t).1.model.source? c u = (e.after steps).model.source? c u) ∧
    ∀ c u, ((e.after steps).step t).1.model.sink? c u = (e.after steps).model.sink? c u
  /-- Asking for the connections from the first on names the listeners in their order. -/
  enumerated : ∀ asks, (e.after steps).Asks v 0 asks →
    named ((e.after steps).sends asks) = s.listeners.take asks.length

/-- A stream output without listeners has this history after every run. -/
theorem exists_sourceHistory (hrole : e.connections.role.isTalker) {s₀ : Source}
    (hs₀ : e.model.source? e.model.current v = some s₀) (hempty : s₀.listeners = [])
    (hcounts₀ : s₀.Counts) (steps : List Step) :
    ∃ s, (e.after steps).model.source? e.model.current v = some s ∧
      e.SourceHistory v steps s := by
  obtain ⟨s, hs, hcounts, hlisteners⟩ := source_after hrole steps hs₀ hcounts₀
  have hcurrent := current_after e steps
  have hrole' : (e.after steps).connections.role.isTalker := by rwa [role_after]
  have hs' : (e.after steps).model.source? (e.after steps).model.current v = some s := hcurrent ▸ hs
  refine ⟨s, hs, ?_⟩
  constructor
  case listeners => rw [hlisteners, hempty]
  case count => exact hcounts
  case answered =>
    intro t p hcommand
    obtain ⟨s', hs₁, hstep⟩ := sourceStep hrole' t hs'
    rw [hcurrent] at hs₁
    cases hstep with
    | kept hnone => exact absurd (hnone.symm.trans hcommand) (Option.some_ne_none p).symm
    | published hnone => exact absurd (hnone.symm.trans hcommand) (Option.some_ne_none p).symm
    | @commanded p' answer s' hcommand' hact hsent =>
      obtain rfl := Option.some.inj (hcommand'.symm.trans hcommand)
      have hfollowed := followed hcounts hact
      rw [Pdu.received_eq_self hfollowed.isAnswer.status_lt] at hsent
      exact ⟨s', answer, hs₁, hsent, hfollowed⟩
  case untouched =>
    intro t p hcommand
    obtain ⟨-, htype, -, rfl⟩ := commandOn_eq_some.mp hcommand
    rw [(step_of_commandOn hrole' hcommand).1, ← hcurrent]
    exact ⟨fun c u hne => Connection.Talker.sources_respond _ htype hne,
      (Connection.Talker.respond_frame _ htype).2⟩
  case enumerated =>
    intro asks hasks
    rw [named_asks hrole' hs' hcounts hasks, List.drop_zero]

/-- **Talker tables follow the commands**: after any run of a talker whose model was just built,
every stream output of the configuration in use has this history. -/
theorem sourceHistory_after {tree : Tree} {mac : Mac} {model : Model}
    (hbuild : Model.build tree mac = .ok model) {role : Role} (hrole : role.isTalker)
    (options : Options) (linkUp : Bool) {v : UInt16}
    (hv : (model.source? model.current v).isSome) (steps : List Step) :
    ∃ s, ((start model role options linkUp).after steps).model.source? model.current v = some s ∧
      (start model role options linkUp).SourceHistory v steps s := by
  obtain ⟨s₀, hs₀⟩ := Option.isSome_iff_exists.mp hv
  obtain rfl := Model.source?_of_build hbuild hs₀
  exact exists_sourceHistory (e := start model role options linkUp) hrole hs₀ rfl
    (Source.counts_fresh v) steps

/-- Two listeners connect, one of them twice, and disconnects once. -/
def audience : List Step :=
  .setAcmpStarted true ::
    [(Connection.Exchange.connectTx, 0), (.connectTx, 1), (.connectTx, 0), (.disconnectTx, 0)].map
      fun (x, listenerUniqueId) =>
        .receive ((multicast { Pdu.duplex x 0 with listenerUniqueId }).frame .duplex) 0 true

/-- The first of its connections is taken away. -/
theorem sourceHistory_audience :
    Model.build .duplex .duplex = .ok .duplex ∧ Role.talker.isTalker = true ∧
      (Model.duplex.source? 0 0).isSome ∧
      ∃ s, s.listeners = [⟨Model.duplex.entityId, 1⟩, ⟨Model.duplex.entityId, 0⟩] ∧
        (start .duplex .talker {} true).SourceHistory 0 audience s := by
  refine ⟨Model.build_duplex, rfl, rfl, ?_⟩
  have hrole : Role.talker.isTalker = true := rfl
  obtain ⟨s, hs, h⟩ :=
    sourceHistory_after (v := 0) Model.build_duplex hrole {} true rfl audience
  have hlisteners : (((start .duplex .talker {} true).after audience).model.source? 0 0).map
      (·.listeners) = some [⟨Model.duplex.entityId, 1⟩, ⟨Model.duplex.entityId, 0⟩] := by
    decide +kernel
  refine ⟨s, ?_, h⟩
  exact Option.some.inj ((congrArg (Option.map _) hs).symm.trans hlisteners)

end AvbEntity.Endpoint

import AvbEntity.Endpoint.Session
import AvbEntity.Proofs.Discovery.Leaving
import AvbEntity.Proofs.Endpoint.Advertising
import AvbEntity.Proofs.Model.Build

/-!
# Orderly shutdown

An entity is run by a loop, in turns. Between two turns the application may make its calls, and in
each turn the loop may find that it is told to halt, or that no frame can come any more. Then this
turn is the last one: it handles no frame, and with its tick the entity announces that it leaves.
Nothing else ends the loop, and nothing else makes the entity leave, whatever the network refuses.

## Main definitions

* `Endpoint.Call`: what the application may call
* `Monitor.Turn`: a turn of the loop, with the calls before it
* `Monitor.step`, `Monitor.after`, `Monitor.sends`: runs of the loop
* `Monitor.Orderly`: a loop that is shut down in an orderly way

## Main results

* `Monitor.step_eq`: a turn is a run of its endpoint
* `Monitor.orderly_of_start`: every loop that starts is shut down in an orderly way
-/

namespace AvbEntity

open Discovery (Advertiser)

/-! ## Turns -/

/-- What the application may call while the loop runs. -/
inductive Endpoint.Call where
  | setAcmpStarted (started : Bool)
  | setGrandmaster (id : Eui64)
  | requestDiscover
  | publish (configuration uniqueId : UInt16) (streamId : Eui64) (streamDestMac : Mac)
    (streamVlanId : UInt16)
  deriving DecidableEq

/-- The step that a call makes. -/
def Endpoint.Call.step : Endpoint.Call → Endpoint.Step
  | setAcmpStarted started => .setAcmpStarted started
  | setGrandmaster id => .setGrandmaster id
  | requestDiscover => .requestDiscover
  | publish configuration uniqueId streamId streamDestMac streamVlanId =>
    .publish configuration uniqueId streamId streamDestMac streamVlanId

namespace Monitor

/-- A turn of the loop, and what it meets. -/
structure Turn where
  /-- The calls of the application since the turn before. -/
  calls : List Endpoint.Call := []
  halt : Bool := false
  reception : Reception := .silence
  link : Link := {}
  now : Time
  deriving DecidableEq

namespace Turn

variable (t : Turn)

/-- The turn in which the loop is told to halt, or finds that no frame can come, is the last. -/
def isLast : Bool :=
  Endpoint.isLast t.halt t.reception

/-- The steps of the calls. -/
def called : List Endpoint.Step :=
  t.calls.map (·.step)

/-- The step of the frame received, if the turn handles one. -/
def received : List Endpoint.Step :=
  match t.reception with
  | .frame frame => if t.halt then [] else [.receive frame t.now t.link.accepts]
  | _ => []

/-- The steps of the timers. -/
def timed : List Endpoint.Step :=
  (if t.isLast then [.requestDepart] else []) ++ [.tick t.now t.link.up]

/-- All steps of the turn. -/
def steps : List Endpoint.Step :=
  t.called ++ (t.received ++ t.timed)

end Turn

/-- The loop as the turn meets it. -/
def meet (m : Monitor) (t : Turn) : Monitor :=
  { m with session := ⟨m.session.endpoint.after t.called, t.link⟩ }

/-- The loop after a turn, and the frames that the turn sends, whether or not they reach the
network. -/
def step (m : Monitor) (t : Turn) : Monitor × List Outgoing :=
  (((m.meet t).turn t.halt t.reception t.now).1,
    if m.running then
      ((m.meet t).session.endpoint.iterate t.halt t.reception ⟨t.now, t.link.up, t.link.accepts⟩).2
    else [])

/-- The loop after a run. -/
def after (m : Monitor) (turns : List Turn) : Monitor :=
  turns.foldl (fun m t => (m.step t).1) m

/-- The frames that a run sends, whether or not they reach the network. -/
def sends (m : Monitor) : List Turn → List Outgoing
  | [] => []
  | t :: turns => (m.step t).2 ++ (m.step t).1.sends turns

variable {m : Monitor} {t : Turn} {turns : List Turn}

theorem sends_append (m : Monitor) (xs ys : List Turn) :
    m.sends (xs ++ ys) = m.sends xs ++ (m.after xs).sends ys := by
  induction xs generalizing m with
  | nil => rfl
  | cons t xs ih =>
    rw [List.cons_append, sends, sends, ih, List.append_assoc]
    rfl

/-! ## A turn is a run of its endpoint -/

/-- What reaches the network in a turn is what the link accepts of what the turn sends. -/
theorem turn_meet (m : Monitor) (t : Turn) :
    ((m.meet t).turn t.halt t.reception t.now).2 = (t.link.transmit (m.step t).2).2 := by
  cases hrunning : m.running with
  | true => simp [turn, step, meet, hrunning, Session.iterate, Session.transmit]
  | false => simp [turn, step, meet, hrunning, Link.transmit]

theorem accept_eq (e : Endpoint) (t : Turn) :
    e.accept t.halt t.reception ⟨t.now, t.link.up, t.link.accepts⟩ =
      (e.after t.received, e.sends t.received) := by
  unfold Endpoint.accept Turn.received
  cases t.reception with
  | frame frame =>
    cases t.halt with
    | true => rfl
    | false => exact Prod.ext rfl (List.append_nil _).symm
  | _ => rfl

/-- First the frame is handled, and then the timers are. -/
theorem iterate_eq (e : Endpoint) (t : Turn) :
    e.iterate t.halt t.reception ⟨t.now, t.link.up, t.link.accepts⟩ =
      ((e.after t.received).after t.timed,
        e.sends t.received ++ (e.after t.received).sends t.timed) := by
  have htimed : ∀ e : Endpoint,
      (if t.isLast then e.requestDepart else e).tick t.now t.link.up =
        (e.after t.timed, e.sends t.timed) := by
    intro e
    rw [Turn.timed]
    cases t.isLast <;> exact congrArg (Prod.mk _) (List.append_nil _).symm
  rw [Endpoint.iterate, accept_eq]
  exact congrArg (fun r => (r.1, e.sends t.received ++ r.2)) (htimed (e.after t.received))

/-- Calls send nothing. -/
theorem sends_called (e : Endpoint) (t : Turn) : e.sends t.called = [] := by
  unfold Turn.called
  induction t.calls generalizing e with
  | nil => rfl
  | cons c calls ih =>
    have hcall : (e.step c.step).2 = [] := by
      cases c with
      | publish configuration uniqueId streamId streamDestMac streamVlanId =>
        rw [Endpoint.Call.step, Endpoint.step]
        split <;> rfl
      | _ => rfl
    rw [List.map_cons, Endpoint.sends, hcall, ih, List.append_nil]

/-- A turn of a loop that runs makes its steps, and ends the loop if it is the last. -/
theorem step_eq (hrunning : m.running = true) (t : Turn) :
    (m.step t).1.running = !t.isLast ∧
      (m.step t).1.session.endpoint = m.session.endpoint.after t.steps ∧
      (m.step t).2 = m.session.endpoint.sends t.steps := by
  have hiterate := iterate_eq (m.session.endpoint.after t.called) t
  rw [Turn.steps, Endpoint.after_append, Endpoint.after_append, Endpoint.sends_append, sends_called,
    List.nil_append, Endpoint.sends_append]
  refine ⟨?_, ?_, ?_⟩
  · simp [step, turn, meet, hrunning, Turn.isLast]
  · simp [step, turn, meet, hrunning, Session.iterate, Session.transmit, hiterate]
  · simp [step, meet, hrunning, hiterate]

/-- No turn follows the end of the loop. -/
theorem sends_of_not_running (hrunning : m.running = false) (turns : List Turn) :
    m.sends turns = [] := by
  induction turns generalizing m with
  | nil => rfl
  | cons t turns ih =>
    have hstep : (m.step t).1.running = false := by simp [step, turn, meet, hrunning]
    rw [sends, ih hstep]
    simp [step, hrunning]

/-- Until its last turn the loop makes all steps of its turns. -/
theorem after_eq (hrunning : m.running = true) (hturns : ∀ t ∈ turns, t.isLast = false) :
    (m.after turns).running = true ∧
      (m.after turns).session.endpoint = m.session.endpoint.after (turns.flatMap (·.steps)) ∧
      m.sends turns = m.session.endpoint.sends (turns.flatMap (·.steps)) := by
  induction turns generalizing m with
  | nil => exact ⟨hrunning, rfl, rfl⟩
  | cons t turns ih =>
    obtain ⟨ht, hturns⟩ := List.forall_mem_cons.mp hturns
    obtain ⟨hrunning', hendpoint, hsent⟩ := step_eq hrunning t
    rw [ht] at hrunning'
    obtain ⟨hafter, hendpoint', hsends⟩ := ih hrunning' hturns
    rw [List.flatMap_cons, Endpoint.after_append, Endpoint.sends_append, ← hendpoint, ← hsent]
    exact ⟨hafter, hendpoint', congrArg _ hsends⟩

/-- No call asks the entity to leave. -/
theorem not_mem_called (t : Turn) : .requestDepart ∉ t.called := by
  rw [Turn.called, List.mem_map]
  rintro ⟨c, -, hc⟩
  cases c <;> cases hc

/-- The entity is asked to leave by the last turn only. -/
theorem not_mem_steps (hturns : ∀ t ∈ turns, t.isLast = false) :
    .requestDepart ∉ turns.flatMap (·.steps) := by
  rw [List.mem_flatMap]
  rintro ⟨t, ht, hs⟩
  rw [Turn.steps, List.mem_append, List.mem_append] at hs
  obtain hs | hs | hs := hs
  · exact not_mem_called t hs
  · unfold Turn.received at hs
    split at hs
    next => split at hs <;> simp at hs
    next => cases hs
  · simp [Turn.timed, hturns t ht] at hs

/-- The last turn handles no frame. -/
theorem steps_of_isLast (ht : t.isLast = true) :
    t.steps = t.called ++ [.requestDepart, .tick t.now t.link.up] := by
  have hreceived : t.received = [] := by
    rw [Turn.isLast, Endpoint.isLast, Bool.or_eq_true, beq_iff_eq] at ht
    unfold Turn.received
    obtain hhalt | hclosed := ht
    · rw [hhalt]
      split <;> rfl
    · rw [hclosed]
  rw [Turn.steps, hreceived, Turn.timed, ht]
  rfl

/-- Until its last turn the loop makes a run of its advertiser in which the entity is not asked to
leave. -/
theorem exists_run (hrunning : m.running = true) (hturns : ∀ t ∈ turns, t.isLast = false) :
    ∃ run, .requestDepart ∉ run ∧
      (m.after turns).session.endpoint.model.entity = m.session.endpoint.model.entity ∧
      (m.after turns).session.endpoint.advertiser =
        m.session.endpoint.advertiser.after m.session.endpoint.model.entity run ∧
      framesOf .adp (m.sends turns) =
        (m.session.endpoint.advertiser.sends m.session.endpoint.model.entity run).map
          Endpoint.announce := by
  obtain ⟨-, hendpoint, hsends⟩ := after_eq hrunning hturns
  rw [hendpoint, hsends]
  exact ⟨_, mt Endpoint.requestDepart_mem_events.mp (not_mem_steps hturns),
    Endpoint.entity_after .., Endpoint.advertiser_run ..⟩

/-! ## Shutdown -/

/-- The loop is shut down in an orderly way, whatever the turns meet. -/
structure Orderly (m : Monitor) : Prop where
  /-- As long as no turn is the last, the loop goes on, and the entity does not leave. -/
  goesOn : ∀ turns : List Turn, (∀ t ∈ turns, t.isLast = false) →
    (m.after turns).running = true ∧
      ∃ ps : List Discovery.Pdu, framesOf .adp (m.sends turns) = ps.map Endpoint.announce ∧
        ∀ p ∈ ps, p.messageType ≠ .departing
  /-- The last turn ends the loop: it handles no frame, and nothing is sent after it. -/
  ends : ∀ (past : List Turn) (last : Turn), (∀ t ∈ past, t.isLast = false) →
    last.isLast = true →
    ((m.after past).step last).1.running = false ∧
      ((m.after past).step last).1.session.endpoint = (m.after past).session.endpoint.after
        (last.called ++ [.requestDepart, .tick last.now last.link.up]) ∧
      ((m.after past).step last).2 = (m.after past).session.endpoint.sends
        (last.called ++ [.requestDepart, .tick last.now last.link.up]) ∧
      ∀ rest, m.sends (past ++ last :: rest) = m.sends past ++ ((m.after past).step last).2
  /-- In the last turn the entity leaves. -/
  leaves : ∀ (past : List Turn) (last : Turn), (∀ t ∈ past, t.isLast = false) →
    last.isLast = true →
    ∃ (before more : List Discovery.Pdu) (p : Discovery.Pdu),
      framesOf .adp (m.sends past) = before.map Endpoint.announce ∧
      framesOf .adp ((m.after past).step last).2 = (more ++ [p]).map Endpoint.announce ∧
      Discovery.Leaves (before ++ more) p
  /-- In each turn what is sent for the frame received comes before what is sent by the timers. -/
  inOrder : ∀ (past : List Turn) (t : Turn), (m.after past).running = true →
    ((m.after past).step t).2 =
      ((m.after past).meet t).session.endpoint.sends t.received ++
        (((m.after past).meet t).session.endpoint.after t.received).sends t.timed
  /-- Of what a turn sends, what the link accepts reaches the network. -/
  transmits : ∀ (past : List Turn) (t : Turn),
    (((m.after past).meet t).turn t.halt t.reception t.now).2 =
      (t.link.transmit ((m.after past).step t).2).2

theorem start_eq_ok {tree : Tree} {mac : Mac} {role : Role} {options : Options}
    {link : Except TransportError Bool} (h : start tree mac role options link = .ok m) :
    ∃ model linkUp, m.session.endpoint = .start model role options linkUp ∧ m.running = true := by
  obtain ⟨model, -, h⟩ := bind_eq_ok.mp h
  obtain ⟨linkUp, -, h⟩ := bind_eq_ok.mp h
  obtain rfl := Except.ok.inj h
  exact ⟨model, linkUp, rfl, rfl⟩

/-- **Every loop that starts is shut down in an orderly way**, whatever the application calls, the
loop receives, the link says and the network refuses. -/
theorem orderly_of_start {tree : Tree} {mac : Mac} {role : Role} {options : Options}
    {link : Except TransportError Bool} (hstart : start tree mac role options link = .ok m) :
    m.Orderly := by
  obtain ⟨model, linkUp, hendpoint, hrunning⟩ := start_eq_ok hstart
  have hadvertiser : m.session.endpoint.advertiser = .start options.validTime linkUp := by
    rw [hendpoint]
    rfl
  constructor
  case goesOn =>
    intro turns hturns
    obtain ⟨hgoes, -⟩ := after_eq hrunning hturns
    obtain ⟨run, hrun, -, -, hframes⟩ := exists_run hrunning hturns
    rw [hadvertiser] at hframes
    exact ⟨hgoes, _, hframes, (Advertiser.stays_of_run rfl hrun).2⟩
  case ends =>
    intro past last hpast hlast
    obtain ⟨hgoes, -⟩ := after_eq hrunning hpast
    obtain ⟨hends, hendpoint', hsent⟩ := step_eq hgoes last
    rw [steps_of_isLast hlast] at hendpoint' hsent
    rw [hlast] at hends
    refine ⟨hends, hendpoint', hsent, fun rest => ?_⟩
    rw [sends_append, sends, sends_of_not_running hends, List.append_nil]
  case leaves =>
    intro past last hpast hlast
    obtain ⟨hgoes, -⟩ := after_eq hrunning hpast
    obtain ⟨-, -, hsent⟩ := step_eq hgoes last
    obtain ⟨run, hrun, hentity, hadvertiser', hframes⟩ := exists_run hrunning hpast
    rw [hadvertiser] at hadvertiser' hframes
    obtain ⟨more, p, hmore, hleaves⟩ := Advertiser.leaves_of_run options.validTime linkUp
      m.session.endpoint.model.entity hrun
      (mt Endpoint.requestDepart_mem_events.mp (not_mem_called last)) last.now last.link.up
    refine ⟨_, more, p, hframes, ?_, hleaves⟩
    rw [hsent, (Endpoint.advertiser_run ..).2, hentity, hadvertiser', steps_of_isLast hlast,
      List.filterMap_append, ← hmore]
    rfl
  case inOrder =>
    intro past t hgoes
    obtain ⟨-, -, hsent⟩ := step_eq hgoes t
    rw [hsent, Turn.steps, Endpoint.sends_append, sends_called, List.nil_append,
      Endpoint.sends_append]
    rfl
  case transmits => exact fun past t => turn_meet (m.after past) t

/-- The loop of the smallest entity on both sides. -/
def duplex : Monitor where
  session := ⟨.start .duplex .both {} true, { up := some true }⟩

/-- If the first turn already halts, it announces the entity and then its leaving. -/
theorem orderly_duplex :
    start .duplex .duplex .both {} (.ok true) = .ok duplex ∧ duplex.Orderly ∧
      (discoveryPdus (duplex.sends [{ halt := true, now := 0 }])).map
        (fun p => (p.messageType, p.availableIndex)) = [(.available, 0), (.departing, 1)] := by
  have hstart : start .duplex .duplex .both {} (.ok true) = .ok duplex := by
    rw [start, Model.build_duplex]
    rfl
  exact ⟨hstart, orderly_of_start hstart, by decide +kernel⟩

end Monitor

end AvbEntity

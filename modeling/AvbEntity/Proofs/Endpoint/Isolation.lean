import AvbEntity.Proofs.Connection.Sides
import AvbEntity.Proofs.Endpoint.Independence

/-!
# What frames and ticks cannot reach

Whatever an entity receives, some of it stays as it was built. An entity that is only a talker
never touches a stream input and has nothing in flight, and one that is only a listener never
touches a stream output. In every role all but the streams of the configuration in use is out of
reach, and these are too while connection management is stopped. Only the application gives stream
outputs their identity.

## Main definitions

* `Endpoint.Step.isPublish`: the application gives a stream output its identity
* `Endpoint.Isolated`: what a run leaves

## Main results

* `Endpoint.sides_step`, `Endpoint.sides_run`: each side keeps to its streams, in a step and a run
* `Endpoint.idle_step`, `Endpoint.idle_run`: nothing happens while connection management is stopped
* `Endpoint.isolated_of_run`: all of this from the start of an entity
-/

namespace AvbEntity.Endpoint

open Connection (Manager)

variable {e : Endpoint} {s : Step} {steps : List Step}

/-- The application gives a stream output its identity. -/
def Step.isPublish : Step → Bool
  | .publish .. => true
  | _ => false

/-! ## Each side keeps to its streams -/

theorem sides_step (h : e.connections.relay.HoldsCommands) (hs : s.isPublish = false) :
    Manager.Sides e.connections e.model (e.step s).1.connections (e.step s).1.model
      (connectionPdus (e.step s).2) := by
  have hstep := connectionStep e s
  generalize (e.step s).1.connections = c, (e.step s).1.model = m,
    connectionPdus (e.step s).2 = sent at hstep ⊢
  cases hstep with
  | heard hcontrol hstarted hdecode => exact (Manager.sides_handle ..).received
  | ticked hstarted => exact (Manager.sides_tick h ..).received
  | published => cases hs
  | quiet hheard => exact .refl e.connections e.model

theorem sides_run (h : e.connections.relay.HoldsCommands)
    (hsteps : ∀ s ∈ steps, s.isPublish = false) :
    Manager.Sides e.connections e.model (e.after steps).connections (e.after steps).model
      (connectionPdus (e.sends steps)) := by
  induction steps generalizing e with
  | nil => exact .refl e.connections e.model
  | cons s steps ih =>
    obtain ⟨hs, hsteps⟩ := List.forall_mem_cons.mp hsteps
    rw [sends, connectionPdus_append]
    -- a tick may send what is in flight, so that the induction has to know that it is commands
    exact (sides_step h hs).trans (ih (holdsCommands_step h s) hsteps)

/-! ## Connection management that is stopped -/

/-- Until it is started again, no step makes connection management do anything. -/
theorem idle_step (hstopped : e.acmpStarted = false) (hs : s.isPublish = false)
    (hstart : s ≠ .setAcmpStarted true) :
    (e.step s).1.connectionView = e.connectionView ∧ framesOf .acmp (e.step s).2 = [] := by
  have hquiet : advanceConnection e.connectionView s = (e.connectionView, []) := by
    cases s with
    | receive frame now accepted =>
      simp only [advanceConnection, connectionView, hstopped, Bool.and_false, Bool.false_eq_true,
        if_false]
    | tick now link =>
      simp only [advanceConnection, connectionView, hstopped, Bool.false_eq_true, if_false]
    | setAcmpStarted started =>
      cases started with
      | true => exact absurd rfl hstart
      | false => simp only [advanceConnection, connectionView, hstopped]
    | setGrandmaster id => rfl
    | requestDiscover => rfl
    | requestDepart => rfl
    | publish => cases hs
  exact Prod.mk.inj ((connection_step e s).trans hquiet)

theorem idle_run (hstopped : e.acmpStarted = false)
    (hsteps : ∀ s ∈ steps, s.isPublish = false ∧ s ≠ .setAcmpStarted true) :
    (e.after steps).connectionView = e.connectionView ∧ framesOf .acmp (e.sends steps) = [] := by
  induction steps generalizing e with
  | nil => exact ⟨rfl, rfl⟩
  | cons s steps ih =>
    obtain ⟨⟨hs, hstart⟩, hsteps⟩ := List.forall_mem_cons.mp hsteps
    obtain ⟨hview, hsent⟩ := idle_step hstopped hs hstart
    have hstopped' : (e.step s).1.acmpStarted = false :=
      (congrArg (·.started) hview).trans hstopped
    obtain ⟨hview', hsends⟩ := ih hstopped' hsteps
    exact ⟨hview'.trans hview, by rw [sends, framesOf_append, hsent, hsends, List.append_nil]⟩

/-! ## Runs from the start -/

/-- What a run leaves of the endpoint as it was at the start. -/
structure Isolated (e₀ : Endpoint) (steps : List Step) : Prop where
  /-- An entity that is only a talker has nothing in flight, and leaves its stream inputs. What it
  sends are the answers of a talker. -/
  talker : e₀.connections.role = .talker →
    (e₀.after steps).connections.relay.inFlight.isEmpty ∧
      (e₀.after steps).model.sinkTables = e₀.model.sinkTables ∧
      ∀ p ∈ connectionPdus (e₀.sends steps), p.messageType.isSentByTalker
  /-- An entity that is only a listener leaves its stream outputs, and answers as no talker. -/
  listener : e₀.connections.role = .listener →
    (e₀.after steps).model.sourceTables = e₀.model.sourceTables ∧
      ∀ p ∈ connectionPdus (e₀.sends steps), p.messageType.isSentByListener
  /-- All but the streams of the configuration in use stays. -/
  keeps : e₀.model.Keeps (e₀.after steps).model
  /-- From a stop to the next start nothing is sent, and the streams and the commands in flight
  stay. -/
  stopped : ∀ during : List Step,
    (∀ s ∈ during, s.isPublish = false ∧ s ≠ .setAcmpStarted true) →
    framesOf .acmp (((e₀.after steps).setAcmpStarted false).sends during) = [] ∧
      (((e₀.after steps).setAcmpStarted false).after during).model = (e₀.after steps).model ∧
      (((e₀.after steps).setAcmpStarted false).after during).connections =
        (e₀.after steps).connections

/-- **Role and configuration isolate**: in every run of frames and ticks from the start, whenever
connection management is started or stopped. -/
theorem isolated_of_run (model : Model) (role : Role) (options : Options) (linkUp : Bool)
    (hsteps : ∀ s ∈ steps, s.isPublish = false) :
    (start model role options linkUp).Isolated steps := by
  have hsides := sides_run (e := start model role options linkUp)
    (Connection.Relay.holdsCommands_start _) hsteps
  constructor
  case talker =>
    rintro rfl
    obtain ⟨hconnections, hsinks, hsent⟩ := hsides.talker rfl
    refine ⟨?_, hsinks, hsent⟩
    rw [hconnections]
    exact List.all_replicate.trans (ite_self true)
  case listener =>
    rintro rfl
    exact hsides.listener rfl
  case keeps => exact hsides.keeps
  case stopped =>
    intro during hduring
    obtain ⟨hview, hsends⟩ := idle_run
      (e := ((start model role options linkUp).after steps).setAcmpStarted false) rfl hduring
    exact ⟨hsends, congrArg (·.model) hview, congrArg (·.connections) hview⟩

/-- Two listeners come and go, and the stream input of the talker stays. -/
theorem isolated_audience :
    (∀ s ∈ audience, s.isPublish = false) ∧ (start .duplex .talker {} true).Isolated audience ∧
      ((start .duplex .talker {} true).after audience).model.sourceTables ≠
        Model.duplex.sourceTables := by
  have hsteps : ∀ s ∈ audience, s.isPublish = false := by decide +kernel
  exact ⟨hsteps, isolated_of_run .duplex .talker {} true hsteps, by decide +kernel⟩

end AvbEntity.Endpoint

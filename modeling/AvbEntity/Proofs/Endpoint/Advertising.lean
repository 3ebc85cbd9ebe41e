import AvbEntity.Proofs.Discovery.Run
import AvbEntity.Proofs.Endpoint.Independence

/-!
# The advertiser of an endpoint

In the view of discovery the run of an endpoint is a run of its advertiser: some of the steps are
events for it, and the others are nothing to it. So what holds of the runs of advertisers holds of
the discovery frames of an endpoint.

## Main definitions

* `Endpoint.Step.event?`: what a step is for the advertiser

## Main results

* `Endpoint.advertiser_step`, `Endpoint.advertiser_run`: one step, and a run
-/

namespace AvbEntity.Endpoint

open Discovery (Advertiser)

/-- What the step is for the advertiser, if it is something to it. -/
def Step.event? : Step → Option Advertiser.Event
  | .receive frame _ _ =>
    if frame.isControl then (Discovery.Pdu.decode frame.payload).toOption.map .hear else none
  | .tick now link => some (.tick now link)
  | .setGrandmaster id => some (.setGrandmaster id)
  | .requestDiscover => some .requestDiscover
  | .requestDepart => some .requestDepart
  | .setAcmpStarted _ | .publish .. => none

theorem Step.event?_eq_requestDepart {s : Step} :
    s.event? = some .requestDepart ↔ s = .requestDepart := by
  cases s with
  | receive frame now accepted =>
    refine iff_of_false (fun h => ?_) nofun
    obtain ⟨-, h⟩ := Option.ite_none_right_eq_some.mp h
    obtain ⟨p, -, h⟩ := Option.map_eq_some_iff.mp h
    cases h
  | _ => simp [Step.event?]

/-- The events of a run ask the entity to leave if a step of it does. -/
theorem requestDepart_mem_events {steps : List Step} :
    .requestDepart ∈ steps.filterMap (·.event?) ↔ .requestDepart ∈ steps := by
  simp only [List.mem_filterMap, Step.event?_eq_requestDepart, exists_eq_right]

/-- A step makes the event for the advertiser, and sends its PDUs. -/
theorem advertiser_step (e : Endpoint) (s : Step) :
    ((e.step s).1.advertiser, framesOf .adp (e.step s).2) =
      (e.advertiser.after e.model.entity s.event?.toList,
        (e.advertiser.sends e.model.entity s.event?.toList).map announce) := by
  rw [discovery_step]
  cases s with
  | receive frame now accepted =>
    simp only [advanceDiscovery, Step.event?]
    split
    next hcontrol => cases Discovery.Pdu.decode frame.payload <;> rfl
    next => rfl
  | tick now link =>
    rw [Step.event?, Option.toList_some, Advertiser.sends_singleton]
    rfl
  | _ => rfl

/-- A run of an endpoint is a run of its advertiser. -/
theorem advertiser_run (e : Endpoint) (steps : List Step) :
    (e.after steps).advertiser =
        e.advertiser.after e.model.entity (steps.filterMap (·.event?)) ∧
      framesOf .adp (e.sends steps) =
        (e.advertiser.sends e.model.entity (steps.filterMap (·.event?))).map announce := by
  induction steps generalizing e with
  | nil => exact ⟨rfl, rfl⟩
  | cons s steps ih =>
    obtain ⟨hadvertiser, hsent⟩ := Prod.mk.inj (advertiser_step e s)
    obtain ⟨hafter, hsends⟩ := ih (e.step s).1
    have hevents : (s :: steps).filterMap (·.event?) =
        s.event?.toList ++ steps.filterMap (·.event?) := by
      cases hs : s.event? <;> simp [hs]
    rw [entity_step, hadvertiser] at hafter hsends
    rw [hevents, Advertiser.after_append, Advertiser.sends_append, List.map_append, after, sends,
      framesOf_append, hsent]
    exact ⟨hafter, congrArg _ hsends⟩

end AvbEntity.Endpoint

import AvbEntity.Proofs.Discovery.Run
import Mathlib.Data.List.DropRight

/-!
# Why an entity announces itself

An advertiser keeps the causes to announce its entity in flags, in a timer and in copies of what it
saw last. Seen from the outside, a tick announces the entity if something has happened since the
tick before: the entity was asked for, it was last heard of too long ago, or the link or the
grandmaster is another one. Causes that come together lead to one announcement, and a cause that is
taken back before the tick to none.

## Main definitions

* `Advertiser.sinceTick`, `Advertiser.upToTick`: a run after, and until, its last tick
* `Advertiser.linkSeen`: the link state that a run last saw
* `Advertiser.Cause`: the causes for which a tick announces the entity
* `Advertiser.Told`: what a tick sends, and for what
* `Advertiser.Reflects`: the flags and copies of an advertiser are those of its run

## Main results

* `Advertiser.Reflects.step`, `Advertiser.reflects_after`: one event, and a run
* `Advertiser.told_of_run`: every tick of every run sends what it has a cause for
-/

namespace AvbEntity.Discovery.Advertiser

open Descriptor (Entity)

/-! ## What happened until a tick -/

/-- The events of a run after its last tick. -/
def sinceTick (run : List Event) : List Event :=
  run.rtakeWhile (!·.isTick)

/-- The events of a run until its last tick. -/
def upToTick (run : List Event) : List Event :=
  run.rdropWhile (!·.isTick)

/-- The link state that the event saw. -/
def Event.link? : Event → Option Bool
  | .tick _ link => link
  | _ => none

/-- The link state that a run last saw, if not that of the start. -/
def linkSeen (linkUp : Bool) (run : List Event) : Bool :=
  (run.filterMap (·.link?)).getLast?.getD linkUp

section

variable {run : List Event} {s : Event}

theorem sinceTick_of_isTick (hs : s.isTick = true) : sinceTick (run ++ [s]) = [] :=
  List.rtakeWhile_concat_neg _ _ _ (by simp [hs])

theorem sinceTick_of_not_isTick (hs : s.isTick = false) :
    sinceTick (run ++ [s]) = sinceTick run ++ [s] :=
  List.rtakeWhile_concat_pos _ _ _ (by simp [hs])

theorem upToTick_of_isTick (hs : s.isTick = true) : upToTick (run ++ [s]) = run ++ [s] :=
  List.rdropWhile_concat_neg _ _ _ (by simp [hs])

theorem upToTick_of_not_isTick (hs : s.isTick = false) : upToTick (run ++ [s]) = upToTick run :=
  List.rdropWhile_concat_pos _ _ _ (by simp [hs])

theorem linkSeen_concat (linkUp : Bool) (run : List Event) (s : Event) :
    linkSeen linkUp (run ++ [s]) = s.link?.getD (linkSeen linkUp run) := by
  rw [linkSeen, List.filterMap_append]
  cases hs : s.link? with
  | none => simp [hs, linkSeen]
  | some up => simp [hs]

end

/-- The causes for which an entity is announced by a tick at the end of a run, whose advertiser was
started with a lifetime and a link state. -/
inductive Cause (validTime : UInt8) (linkUp : Bool) (e : Entity) (run : List Event) (now : Time)
    (link : Option Bool) : Prop
  /-- No tick came before. -/
  | first (h : ∀ s ∈ run, s.isTick = false)
  /-- Every entity, or this one, was asked to announce itself since the last tick. -/
  | asked {p : Pdu} (h : .hear p ∈ sinceTick run) (htype : p.messageType = .discover)
    (hid : p.entityId.isZero ∨ p.entityId = e.entityId)
  /-- The last announcement or leaving is longer ago than half of the lifetime and than a second. -/
  | lapsed {last : Time} {p : Pdu}
    (h : ((start validTime linkUp).announcements e run).getLast? = some (last, p))
    (hlate : last + max (validTime.toNat * 1000 / 2) 1000 < now)
  /-- The link is in another state than the one that was last seen. -/
  | link {up : Bool} (h : link = some up) (hup : up ≠ linkSeen linkUp run)
  /-- The grandmaster is another one than at the last tick. -/
  | grandmaster (h : grandmasterOf run ≠ grandmasterOf (upToTick run))

/-- What a tick at the end of a run sends, and for what. -/
structure Told (validTime : UInt8) (linkUp : Bool) (e : Entity) (run : List Event) (now : Time)
    (link : Option Bool) (sent : List Pdu) : Prop where
  /-- There is at most one PDU of each type, and they come in this order. -/
  order : (sent.map (·.messageType)).Sublist [.available, .discover, .departing]
  /-- The entity is announced for each of the causes, and for nothing else. -/
  available : (∃ p ∈ sent, p.messageType = .available) ↔
    Cause validTime linkUp e run now link
  /-- Other entities are asked for if that was requested since the last tick. -/
  discover : (∃ p ∈ sent, p.messageType = .discover) ↔ .requestDiscover ∈ sinceTick run
  /-- Every entity is asked for. -/
  target : ∀ p ∈ sent, p.messageType = .discover → p = .discover
  /-- The leaving is announced if that was requested since the last tick. -/
  departing : (∃ p ∈ sent, p.messageType = .departing) ↔ .requestDepart ∈ sinceTick run

/-! ## What the advertiser keeps -/

/-- The flags and copies of an advertiser are those of its run. -/
structure Reflects (a : Advertiser) (linkUp : Bool) (own : Eui64) (run : List Event) : Prop where
  needsAdvertise : a.needsAdvertise = true ↔
    (∀ s ∈ run, s.isTick = false) ∨ ∃ s ∈ sinceTick run, s.asks own = true
  needsDiscover : a.needsDiscover = true ↔ .requestDiscover ∈ sinceTick run
  needsDepart : a.needsDepart = true ↔ .requestDepart ∈ sinceTick run
  linkUp : a.linkUp = linkSeen linkUp run
  grandmasterId : a.grandmasterId = grandmasterOf run
  advertisedGrandmasterId : a.advertisedGrandmasterId = grandmasterOf (upToTick run)

namespace Reflects

variable {a : Advertiser} {linkUp : Bool} {e : Entity} {run : List Event}

theorem tick (h : a.Reflects linkUp e.entityId run) (now : Time) (link : Option Bool) :
    (a.tick e now link).1.Reflects linkUp e.entityId (run ++ [.tick now link]) := by
  rw [tick_eq]
  constructor
  case needsAdvertise =>
    rw [sinceTick_of_isTick rfl]
    refine iff_of_false Bool.false_ne_true ?_
    rintro (hfirst | ⟨s, hs, -⟩)
    · exact absurd (hfirst (.tick now link) (by simp)) Bool.noConfusion
    · exact absurd hs List.not_mem_nil
  case needsDiscover =>
    rw [sinceTick_of_isTick rfl]
    exact iff_of_false Bool.false_ne_true List.not_mem_nil
  case needsDepart =>
    rw [sinceTick_of_isTick rfl]
    exact iff_of_false Bool.false_ne_true List.not_mem_nil
  case linkUp =>
    rw [linkSeen_concat, ← h.linkUp]
    rfl
  case grandmasterId =>
    rw [grandmasterOf_concat]
    exact h.grandmasterId
  case advertisedGrandmasterId =>
    rw [upToTick_of_isTick rfl, grandmasterOf_concat]
    exact h.grandmasterId

/-- Between two ticks what is kept follows what happens. -/
theorem step_of_not_isTick (h : a.Reflects linkUp e.entityId run) {s : Event}
    (hs : s.isTick = false) :
    (a.step e s).1.Reflects linkUp e.entityId (run ++ [s]) := by
  rw [step_eq hs]
  constructor
  case needsAdvertise =>
    rw [Bool.or_eq_true, h.needsAdvertise, sinceTick_of_not_isTick hs, or_assoc]
    simp [or_imp, forall_and, hs, or_and_right, exists_or]
  case needsDiscover =>
    rw [Bool.or_eq_true, h.needsDiscover, sinceTick_of_not_isTick hs, beq_iff_eq,
      List.mem_append, List.mem_singleton, eq_comm (a := s)]
  case needsDepart =>
    rw [Bool.or_eq_true, h.needsDepart, sinceTick_of_not_isTick hs, beq_iff_eq,
      List.mem_append, List.mem_singleton, eq_comm (a := s)]
  case linkUp =>
    have hlink : s.link? = none := by cases s <;> first | rfl | cases hs
    rw [linkSeen_concat, hlink]
    exact h.linkUp
  case grandmasterId => rw [grandmasterOf_concat, h.grandmasterId]
  case advertisedGrandmasterId =>
    rw [upToTick_of_not_isTick hs]
    exact h.advertisedGrandmasterId

theorem step (h : a.Reflects linkUp e.entityId run) (s : Event) :
    (a.step e s).1.Reflects linkUp e.entityId (run ++ [s]) := by
  cases s using Event.tickCases with
  | tick now link => exact h.tick now link
  | other s hs => exact h.step_of_not_isTick hs

end Reflects

theorem reflects_after (validTime : UInt8) (linkUp : Bool) (e : Entity) (run : List Event) :
    ((start validTime linkUp).after e run).Reflects linkUp e.entityId run := by
  induction run using List.reverseRecOn with
  | nil =>
    exact ⟨iff_of_true rfl (.inl fun s hs => absurd hs List.not_mem_nil),
      iff_of_false Bool.false_ne_true List.not_mem_nil,
      iff_of_false Bool.false_ne_true List.not_mem_nil, rfl, rfl, rfl⟩
  | append_singleton run s ih =>
    rw [after_concat]
    exact ih.step s

/-! ## What a tick sends -/

theorem Event.asks_iff {own : Eui64} {s : Event} :
    s.asks own = true ↔ ∃ p, s = .hear p ∧ p.messageType = .discover ∧
      (p.entityId.isZero = true ∨ p.entityId = own) := by
  cases s <;> simp [Event.asks]

/-- A tick is prompted by the causes, and by nothing else. -/
theorem isPrompted_iff_cause (validTime : UInt8) (linkUp : Bool) (e : Entity) (run : List Event)
    (now : Time) (link : Option Bool) :
    ((start validTime linkUp).after e run).isPrompted now link = true ↔
      Cause validTime linkUp e run now link := by
  have h := reflects_after validTime linkUp e run
  have hlast := (announced_after validTime linkUp e run).lastAdvertised
  -- each cause that the tick finds in the state is one that came about in the run
  rw [isPrompted_iff, h.needsAdvertise, h.linkUp, h.grandmasterId, h.advertisedGrandmasterId,
    hlast, readvertiseInterval_after]
  constructor
  · rintro ((hfirst | ⟨s, hs, hasks⟩) | ⟨last, hlast, hlate⟩ | ⟨up, hlink, hup⟩ | hgrandmaster)
    · exact .first hfirst
    · obtain ⟨p, rfl, htype, hid⟩ := Event.asks_iff.mp hasks
      exact .asked hs htype hid
    · obtain ⟨⟨last, p⟩, hp, rfl⟩ := Option.map_eq_some_iff.mp hlast
      exact .lapsed hp hlate
    · exact .link hlink hup
    · exact .grandmaster hgrandmaster
  · rintro (hfirst | ⟨hs, htype, hid⟩ | ⟨hp, hlate⟩ | ⟨hlink, hup⟩ | hgrandmaster)
    · exact .inl (.inl hfirst)
    · exact .inl (.inr ⟨_, hs, Event.asks_iff.mpr ⟨_, rfl, htype, hid⟩⟩)
    · exact .inr (.inl ⟨_, by rw [hp]; rfl, hlate⟩)
    · exact .inr (.inr (.inl ⟨_, hlink, hup⟩))
    · exact .inr (.inr (.inr hgrandmaster))

/-- **No cause to announce an entity is lost, and none is invented**: this is what every tick of
every run sends. -/
theorem told_of_run (validTime : UInt8) (linkUp : Bool) (e : Entity) (run : List Event) (now : Time)
    (link : Option Bool) :
    Told validTime linkUp e run now link
      (((start validTime linkUp).after e run).tick e now link).2 where
  order := sublist_tick ..
  available := (exists_mem_tick ..).trans (isPrompted_iff_cause ..)
  discover := (exists_mem_tick ..).trans (reflects_after ..).needsDiscover
  target p hp htype := by
    obtain ⟨-, rfl⟩ | ⟨-, rfl⟩ | ⟨-, rfl⟩ := (mem_tick_iff ..).mp hp
    · cases htype
    · rfl
    · cases htype
  departing := (exists_mem_tick ..).trans (reflects_after ..).needsDepart

end AvbEntity.Discovery.Advertiser

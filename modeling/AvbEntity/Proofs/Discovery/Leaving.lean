import AvbEntity.Proofs.Discovery.Freshness

/-!
# How an entity leaves

Until it is asked to leave, an entity never says that it leaves. Once it is, the next tick says so
as the last thing. Since every advertiser has to announce its entity first, the entity was announced
by then, if not before, then in that tick.

## Main definitions

* `Leaves`: the PDUs of an entity that left

## Main results

* `Advertiser.stays_of_run`: an entity that is not asked to leave does not
* `Advertiser.leaves_of_tick`, `Advertiser.leaves_of_run`: an entity that is asked to leave does
-/

namespace AvbEntity.Discovery

open Descriptor (Entity)

/-- The entity was announced, and the last PDU says that it leaves: none did so before, and it
carries the number of announcements. -/
structure Leaves (earlier : List Pdu) (last : Pdu) : Prop where
  departing : last.messageType = .departing
  stays : ∀ p ∈ earlier, p.messageType ≠ .departing
  announced : ∃ p ∈ earlier, p.messageType = .available
  index : last.availableIndex = .ofNat (earlier.countP (·.messageType == .available))

namespace Advertiser

/-- As long as no PDU says that the entity leaves, all announcements count. -/
theorem availablesSince_of_forall {sent : List Pdu} (h : ∀ p ∈ sent, p.messageType ≠ .departing) :
    availablesSince sent = sent.countP (·.messageType == .available) := by
  rw [availablesSince, List.rtakeWhile_eq_self_iff.mpr]
  simpa using h

section

variable {a : Advertiser} {e : Entity} {run : List Event}

/-- An entity that is not asked to leave is not about to, and has not said so. -/
theorem stays_of_run (ha : a.needsDepart = false) (hrun : .requestDepart ∉ run) :
    (a.after e run).needsDepart = false ∧ ∀ p ∈ a.sends e run, p.messageType ≠ .departing := by
  induction run using List.reverseRecOn with
  | nil => exact ⟨ha, fun _ hp => absurd hp List.not_mem_nil⟩
  | append_singleton run s ih =>
    rw [List.mem_append, List.mem_singleton, not_or] at hrun
    obtain ⟨hdepart, hstays⟩ := ih hrun.1
    rw [after_concat, sends_concat]
    cases s using Event.tickCases with
    | tick now link =>
      refine ⟨by rw [step, tick_eq], fun p hp => ?_⟩
      obtain hp | hp := List.mem_append.mp hp
      · exact hstays p hp
      obtain ⟨-, rfl⟩ | ⟨-, rfl⟩ | ⟨hneeds, -⟩ := (mem_tick_iff ..).mp hp
      · rintro ⟨⟩
      · rintro ⟨⟩
      · exact absurd hneeds (Bool.eq_false_iff.mp hdepart)
    | other s hs =>
      rw [step_eq hs, List.append_nil]
      exact ⟨Bool.or_eq_false_iff.mpr ⟨hdepart, beq_eq_false_iff_ne.mpr (Ne.symm hrun.2)⟩, hstays⟩

/-- A tick that has to announce the leaving does so at the end, and has announced the entity if it
found a cause. -/
theorem exists_tick_of_needsDepart (ha : a.needsDepart = true) (e : Entity) (now : Time)
    (link : Option Bool) :
    ∃ earlier, (a.tick e now link).2 = earlier ++ [a.departing e now link] ∧
      (∀ p ∈ earlier, p.messageType ≠ .departing) ∧
      (a.isPrompted now link = true → ∃ p ∈ earlier, p.messageType = .available) := by
  refine ⟨(if a.isPrompted now link then [a.announcement e .available] else []) ++
    (if a.needsDiscover then [.discover] else []), ?_, ?_, ?_⟩
  · rw [tick_eq, ha]
    rfl
  · simp only [List.mem_append, List.mem_ite_nil_right, List.mem_singleton]
    rintro p (⟨-, rfl⟩ | ⟨-, rfl⟩) <;> rintro ⟨⟩
  · intro hprompted
    exact ⟨a.announcement e .available, by simp [hprompted], rfl⟩

end

/-- The entity was announced before, or the next tick announces it. -/
theorem announced_or_isPrompted (validTime : UInt8) (linkUp : Bool) (e : Entity) (run : List Event)
    (now : Time) (link : Option Bool) :
    (∃ p ∈ (start validTime linkUp).sends e run, p.isAnnouncement = true) ∨
      ((start validTime linkUp).after e run).isPrompted now link = true := by
  by_cases hnone : (start validTime linkUp).announcements e run = []
  · have hneeds := (announced_after validTime linkUp e run).pending hnone
    exact .inr ((isPrompted_iff ..).mpr (.inl hneeds))
  · left
    have hsent : ((start validTime linkUp).sends e run).filter (·.isAnnouncement) ≠ [] := by
      rw [← map_announcements]
      exact mt List.map_eq_nil_iff.mp hnone
    obtain ⟨p, hp⟩ := List.exists_mem_of_ne_nil _ hsent
    exact ⟨p, List.mem_filter.mp hp⟩

/-- An entity that is asked to leave says so at the end of the next tick, and was announced
before. -/
theorem leaves_of_tick (validTime : UInt8) (linkUp : Bool) (e : Entity) {run : List Event}
    (hrun : .requestDepart ∉ run) (now : Time) (link : Option Bool) :
    ∃ earlier last,
      (((start validTime linkUp).after e run).requestDepart.tick e now link).2 =
        earlier ++ [last] ∧
      Leaves ((start validTime linkUp).sends e run ++ earlier) last := by
  obtain ⟨-, hrunStays⟩ := stays_of_run (a := start validTime linkUp) (e := e) rfl hrun
  have hprompted := announced_or_isPrompted validTime linkUp e run now link
  have hcounted := counted_after validTime linkUp e run
  generalize (start validTime linkUp).after e run = a,
    (start validTime linkUp).sends e run = sent at hrunStays hprompted hcounted ⊢
  replace hcounted : Counted a.requestDepart.availableIndex sent := hcounted
  obtain ⟨earlier, htick, htickStays, hannounced⟩ :=
    exists_tick_of_needsDepart (a := a.requestDepart) rfl e now link
  refine ⟨earlier, _, htick, ?_⟩
  have hstays : ∀ p ∈ sent ++ earlier, p.messageType ≠ .departing :=
    List.forall_mem_append.mpr ⟨hrunStays, htickStays⟩
  constructor
  case departing => rfl
  case stays => exact hstays
  case announced =>
    obtain ⟨p, hp, hannounces⟩ | hprompted := hprompted
    · refine ⟨p, List.mem_append_left _ hp, ?_⟩
      cases htype : p.messageType with
      | available => rfl
      | discover => simp [Pdu.isAnnouncement, htype] at hannounces
      | departing => exact absurd htype (hrunStays p hp)
    · obtain ⟨p, hp, htype⟩ := hannounced hprompted
      exact ⟨p, List.mem_append_right _ hp, htype⟩
  case index =>
    -- no leaving came before from which the announcements would be counted anew
    have hnumbered := (hcounted.tick e now link).numbered
    rw [htick, ← List.append_assoc] at hnumbered
    rw [← availablesSince_of_forall hstays,
      hnumbered (sent ++ earlier).length _ List.getElem?_concat_length rfl, List.take_left]

/-- The same with what is sent from some event on until the leaving. -/
theorem leaves_of_run (validTime : UInt8) (linkUp : Bool) (e : Entity) {run more : List Event}
    (hrun : .requestDepart ∉ run) (hmore : .requestDepart ∉ more) (now : Time)
    (link : Option Bool) :
    ∃ earlier last,
      ((start validTime linkUp).after e run).sends e (more ++ [.requestDepart, .tick now link]) =
        earlier ++ [last] ∧
      Leaves ((start validTime linkUp).sends e run ++ earlier) last := by
  obtain ⟨earlier, last, htick, hleaves⟩ := leaves_of_tick validTime linkUp e
    (List.not_mem_append hrun hmore) now link
  rw [after_append] at htick
  rw [sends_append, List.append_assoc] at hleaves
  refine ⟨_, last, ?_, hleaves⟩
  rw [sends_append, List.append_assoc, ← htick]
  exact congrArg (_ ++ ·) (List.append_nil _)

end Advertiser

end AvbEntity.Discovery

import AvbEntity.Proofs.Discovery.Run
import Mathlib.Data.List.DropRight

/-!
# What the network last heard is current

Those who hear an entity tell by the number of its announcements whether they missed one, or whether
it left in between. After every tick what they last heard is still so: nothing waits to be said, the
grandmaster is the one that the entity has, and the announcement is not too old.

## Main definitions

* `Advertiser.availablesSince`: how often the entity was announced since it last left
* `Advertiser.Numbered`: the announcements carry their number
* `Advertiser.Counted`: the same, with the number that the next one will carry
* `Advertiser.UpToDate`: what was last heard is current

## Main results

* `Advertiser.Counted.step`, `Advertiser.counted_after`: one event, and a run
* `Advertiser.current_of_run`: the announcements of every run are numbered and current
-/

namespace AvbEntity.Discovery.Advertiser

open Descriptor (Entity)

/-! ## The numbers of the announcements -/

/-- How often an entity was announced since it last left, or since the start. -/
def availablesSince (sent : List Pdu) : Nat :=
  (sent.rtakeWhile (·.messageType != .departing)).countP (·.messageType == .available)

/-- Every announcement and every leaving carries the number of announcements since the last leaving
before it, or since the start. -/
def Numbered (sent : List Pdu) : Prop :=
  ∀ (i : Nat) (p : Pdu), sent[i]? = some p → p.isAnnouncement = true →
    p.availableIndex = .ofNat (availablesSince (sent.take i))

/-- The number of the next announcement, once a PDU was sent when it was `n`. -/
def nextIndex (n : UInt32) (p : Pdu) : UInt32 :=
  match p.messageType with
  | .available => n + 1
  | .discover => n
  | .departing => 0

theorem nextIndex_discover (n : UInt32) : nextIndex n .discover = n := rfl

/-- A list of PDUs that grew by one after the other, each with the number that was due if it
announces the entity or its leaving. The next one is due to carry the first argument. -/
inductive Counted : UInt32 → List Pdu → Prop
  | start : Counted 0 []
  | concat {n : UInt32} {sent : List Pdu} {p : Pdu} (h : Counted n sent)
    (hindex : p.isAnnouncement = true → p.availableIndex = n) :
    Counted (nextIndex n p) (sent ++ [p])

theorem availablesSince_concat (sent : List Pdu) (p : Pdu) :
    .ofNat (availablesSince (sent ++ [p])) = nextIndex (.ofNat (availablesSince sent)) p := by
  unfold nextIndex
  split
  next htype =>
    rw [availablesSince, List.rtakeWhile_concat_pos _ _ _ (by simp [htype]), List.countP_append,
      UInt32.ofNat_add]
    simp [availablesSince, htype]
  next htype =>
    rw [availablesSince, List.rtakeWhile_concat_pos _ _ _ (by simp [htype]), List.countP_append]
    simp [availablesSince, htype]
  next htype =>
    rw [availablesSince, List.rtakeWhile_concat_neg _ _ _ (by simp [htype])]
    rfl

namespace Counted

variable {n : UInt32} {sent : List Pdu}

theorem eq_ofNat (h : Counted n sent) : n = .ofNat (availablesSince sent) := by
  induction h with
  | start => rfl
  | concat h hindex ih => rw [availablesSince_concat, ← ih]

theorem numbered (h : Counted n sent) : Numbered sent := by
  intro i p hp hannounces
  induction h with
  | start => simp at hp
  | @concat n sent q h hindex ih =>
    obtain hlt | rfl | hgt := Nat.lt_trichotomy i sent.length
    · rw [List.getElem?_append_left hlt] at hp
      rw [List.take_append_of_le_length hlt.le]
      exact ih hp
    · rw [List.getElem?_concat_length, Option.some_inj] at hp
      subst hp
      rw [List.take_left, hindex hannounces]
      exact h.eq_ofNat
    · rw [List.getElem?_eq_none (by rwa [List.length_append, List.length_singleton])] at hp
      cases hp

/-- A PDU is sent if a flag says so. -/
theorem concat_if (h : Counted n sent) (b : Bool) {p : Pdu}
    (hindex : p.isAnnouncement = true → p.availableIndex = n) :
    Counted (if b then nextIndex n p else n) (sent ++ if b then [p] else []) := by
  cases b with
  | true => exact h.concat hindex
  | false => simpa using h

variable {a : Advertiser}

theorem tick (h : Counted a.availableIndex sent) (e : Entity) (now : Time) (link : Option Bool) :
    Counted (a.tick e now link).1.availableIndex (sent ++ (a.tick e now link).2) := by
  have havailable : Counted
      (if a.isPrompted now link then a.availableIndex + 1 else a.availableIndex)
      (sent ++ if a.isPrompted now link then [a.announcement e .available] else []) :=
    h.concat_if (a.isPrompted now link) (p := a.announcement e .available) fun _ => rfl
  have hdiscover : Counted
      (if a.isPrompted now link then a.availableIndex + 1 else a.availableIndex)
      ((sent ++ if a.isPrompted now link then [a.announcement e .available] else []) ++
        if a.needsDiscover then [.discover] else []) := by
    simpa only [nextIndex_discover, ite_self] using
      havailable.concat_if a.needsDiscover (p := .discover) nofun
  rw [tick_eq, ← List.append_assoc, ← List.append_assoc]
  exact hdiscover.concat_if a.needsDepart (p := a.departing e now link) fun _ => rfl

theorem step (h : Counted a.availableIndex sent) (e : Entity) (s : Event) :
    Counted (a.step e s).1.availableIndex (sent ++ (a.step e s).2) := by
  cases s using Event.tickCases with
  | tick now link => exact h.tick e now link
  | other s hs =>
    rw [step_eq hs, List.append_nil]
    exact h

end Counted

theorem counted_after (validTime : UInt8) (linkUp : Bool) (e : Entity) (run : List Event) :
    Counted ((start validTime linkUp).after e run).availableIndex
      ((start validTime linkUp).sends e run) := by
  induction run using List.reverseRecOn with
  | nil => exact .start
  | append_singleton run s ih =>
    rw [after_concat, sends_concat]
    exact ih.step e s

/-! ## What was last heard -/

/-- After a tick the last announcement or leaving is not too long ago. -/
theorem Announced.exists_lastAdvertised {a : Advertiser} {e : Entity}
    {announced : List (Time × Pdu)} (h : a.Announced e announced) (now : Time)
    (link : Option Bool) :
    ∃ last, (a.tick e now link).1.lastAdvertised = some last ∧
      now - last ≤ a.readvertiseInterval := by
  rw [tick_eq]
  cases hsent : a.isPrompted now link || a.needsDepart with
  | true => exact ⟨now, rfl, (Nat.sub_self now).trans_le (Nat.zero_le _)⟩
  | false =>
    obtain ⟨hprompted, -⟩ := Bool.or_eq_false_iff.mp hsent
    obtain ⟨hneeds, hfresh, -⟩ := (isPrompted_eq_false a now link).mp hprompted
    obtain ⟨x, hx⟩ := Option.ne_none_iff_exists'.mp
      (mt List.getLast?_eq_none_iff.mp (mt h.pending (Bool.eq_false_iff.mp hneeds)))
    have hlast : a.lastAdvertised = some x.1 := by rw [h.lastAdvertised, hx, Option.map_some]
    exact ⟨x.1, hlast, Nat.sub_le_iff_le_add'.mpr (hfresh x.1 hlast)⟩

/-- After a run of an advertiser and a tick, what the network last heard of the entity is
current. -/
structure UpToDate (validTime : UInt8) (linkUp : Bool) (e : Entity) (run : List Event) (now : Time)
    (link : Option Bool) : Prop where
  /-- No announcement is pending. -/
  needsAdvertise :
    ((start validTime linkUp).after e (run ++ [.tick now link])).needsAdvertise = false
  /-- No search is pending. -/
  needsDiscover :
    ((start validTime linkUp).after e (run ++ [.tick now link])).needsDiscover = false
  /-- No leaving is pending. -/
  needsDepart :
    ((start validTime linkUp).after e (run ++ [.tick now link])).needsDepart = false
  /-- The entity has been announced, as it is and with the grandmaster that it has, and this is no
  longer ago than half of the lifetime, or than a second. -/
  last : ∃ last p,
    ((start validTime linkUp).announcements e (run ++ [.tick now link])).getLast? =
      some (last, p) ∧
    p.Describes e ∧ p.gptpGrandmasterId = grandmasterOf run ∧
    now - last ≤ max (validTime.toNat * 1000 / 2) 1000

theorem upToDate_after (validTime : UInt8) (linkUp : Bool) (e : Entity) (run : List Event)
    (now : Time) (link : Option Bool) : UpToDate validTime linkUp e run now link := by
  have hafter : (start validTime linkUp).after e (run ++ [.tick now link]) =
      (((start validTime linkUp).after e run).tick e now link).1 := after_concat ..
  constructor
  case needsAdvertise => rw [hafter, tick_eq]
  case needsDiscover => rw [hafter, tick_eq]
  case needsDepart => rw [hafter, tick_eq]
  case last =>
    -- what the advertiser knows of the last announcement is about that very announcement
    have h := announced_after validTime linkUp e (run ++ [.tick now link])
    obtain ⟨last, hlast, hfresh⟩ :=
      (announced_after validTime linkUp e run).exists_lastAdvertised now link
    rw [← hafter, h.lastAdvertised] at hlast
    obtain ⟨⟨_, p⟩, hp, rfl⟩ := Option.map_eq_some_iff.mp hlast
    refine ⟨_, p, hp, (h.last _ hp).1, ?_, ?_⟩
    · rw [(h.last _ hp).2, hafter, tick_eq]
      exact grandmasterId_after validTime linkUp e run
    · rwa [readvertiseInterval_after] at hfresh

/-- **What the network last heard is current**: in every run the announcements and leavings carry
their number, and after each of its ticks nothing more has to be said. -/
theorem current_of_run (validTime : UInt8) (linkUp : Bool) (e : Entity) (run : List Event) :
    Numbered ((start validTime linkUp).sends e run) ∧
      ∀ (now : Time) (link : Option Bool), UpToDate validTime linkUp e run now link :=
  ⟨(counted_after validTime linkUp e run).numbered,
    fun now link => upToDate_after validTime linkUp e run now link⟩

end AvbEntity.Discovery.Advertiser

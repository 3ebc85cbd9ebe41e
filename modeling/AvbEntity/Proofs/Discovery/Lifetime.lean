import AvbEntity.Proofs.Discovery.Freshness
import AvbEntity.Proofs.Model.Build
import AvbEntity.Settings.Basic

/-!
# How long an announcement holds

An announcement holds for a lifetime, and those who heard it drop the entity when no other one has
come by then. The lifetime is set in seconds; the PDU counts units of two seconds in five bits, and
the seconds are put there as they are. So most entities are announced for twice their lifetime, and
those whose lifetime does not fit for what is left of it.

## Main definitions

* `Pdu.lifetime`, `Pdu.HoldsFor`: how long an announcement holds, and for those who receive it

## Main results

* `Pdu.holdsFor`: what is left of a lifetime on the wire
* `Advertiser.lasts_iff_of_check`: the settings whose announcements hold until they are renewed
* `Advertiser.not_lasts_of_check`: settings that are accepted, and whose announcements do not
-/

namespace AvbEntity

/-- The settings that are accepted have a lifetime that units of two seconds in five bits can
count. -/
theorem Settings.validTime_of_check {s : Settings} (h : s.check = .ok ()) :
    2 ≤ s.validTime.toNat ∧ s.validTime.toNat ≤ 62 := by
  unfold check at h
  split at h
  · cases h
  split at h
  · cases h
  split at h
  · cases h
  next hrange =>
    rw [not_or, UInt8.not_lt, UInt8.not_lt] at hrange
    exact hrange

namespace Discovery

open Descriptor (Entity)

/-- How long an announcement holds, in milliseconds: its field counts units of two seconds. -/
def Pdu.lifetime (p : Pdu) : Time :=
  p.validTime.toNat * 2000

/-- Whoever receives the announcement, reads this lifetime from its octets. -/
def Pdu.HoldsFor (p : Pdu) (lifetime : Time) : Prop :=
  ∃ q, (∀ rest, decode (p.encode ++ rest) = .ok q) ∧ q.lifetime = lifetime

/-- Of the lifetime five bits are received. -/
theorem Pdu.holdsFor (p : Pdu) : p.HoldsFor (p.validTime.toNat % 32 * 2000) := by
  have hfits : p.validTime.toNat % 32 < UInt8.size :=
    (Nat.mod_lt _ (by decide)).trans (by decide)
  exact ⟨p.received, p.decode_encode, congrArg (· * 2000) (UInt8.toNat_ofNat_of_lt hfits)⟩

namespace Advertiser

theorem validTime_of_mem_sends (a : Advertiser) (e : Entity) (run : List Event) {p : Pdu}
    (hp : p ∈ a.sends e run) (hannounces : p.isAnnouncement = true) :
    p.validTime = a.validTime := by
  induction run using List.reverseRecOn with
  | nil => cases hp
  | append_singleton run s ih =>
    rw [sends_concat, List.mem_append] at hp
    obtain hp | hp := hp
    · exact ih hp
    rw [← validTime_after a e run]
    cases s using Event.tickCases with
    | tick now link =>
      obtain ⟨-, rfl⟩ | ⟨-, rfl⟩ | ⟨-, rfl⟩ := (mem_tick_iff ..).mp hp
      · rfl
      · cases hannounces
      · rfl
    | other s hs =>
      rw [step_eq hs] at hp
      cases hp

/-- Of the lifetimes that are accepted, half a lifetime is longer than what is announced for those
from 32 to 42 seconds. -/
theorem interval_le_iff {seconds : Nat} (hmin : 2 ≤ seconds) (hmax : seconds ≤ 62) :
    max (seconds * 1000 / 2) 1000 ≤ seconds % 32 * 2000 ↔ seconds < 32 ∨ 42 < seconds := by
  omega

/-- How long an announcement holds that is made with accepted settings. -/
theorem exists_holdsFor_of_check {s : Settings} (hcheck : s.check = .ok ()) {linkUp : Bool}
    {e : Entity} {run : List Event} {p : Pdu}
    (hp : p ∈ (start s.options.validTime linkUp).sends e run)
    (hannounces : p.isAnnouncement = true) :
    ∃ lifetime, p.HoldsFor lifetime ∧
      (max (s.validTime.toNat * 1000 / 2) 1000 ≤ lifetime ↔
        s.validTime < 32 ∨ 42 < s.validTime) := by
  obtain ⟨hmin, hmax⟩ := Settings.validTime_of_check hcheck
  have hvalidTime : p.validTime = s.validTime := validTime_of_mem_sends _ e run hp hannounces
  refine ⟨_, hvalidTime ▸ p.holdsFor, ?_⟩
  rw [UInt8.lt_iff_toNat_lt, UInt8.lt_iff_toNat_lt]
  exact interval_le_iff hmin hmax

/-- **The lifetimes whose announcements hold until the next one is due**: in every run with accepted
settings each announcement is read back, and it holds for the interval of the advertiser unless the
lifetime is one of 32 to 42 seconds. Otherwise those who heard the last one before a tick keep the
entity, if the tick after it is not later than what the announcement holds beyond the interval. -/
theorem lasts_iff_of_check {s : Settings} (hcheck : s.check = .ok ()) (linkUp : Bool) (e : Entity)
    (run : List Event) :
    (∀ p ∈ (start s.options.validTime linkUp).sends e run, p.messageType = .available →
      ∃ lifetime, p.HoldsFor lifetime ∧
        (((start s.options.validTime linkUp).after e run).readvertiseInterval ≤ lifetime ↔
          s.validTime < 32 ∨ 42 < s.validTime)) ∧
      ((s.validTime < 32 ∨ 42 < s.validTime) → ∀ (now : Time) (link : Option Bool) (last : Time)
        (p : Pdu), ((start s.options.validTime linkUp).announcements e
          (run ++ [.tick now link])).getLast? = some (last, p) →
        ∃ lifetime, p.HoldsFor lifetime ∧
          ∀ next, next ≤ now + (lifetime -
              ((start s.options.validTime linkUp).after e run).readvertiseInterval) →
            next ≤ last + lifetime) := by
  rw [readvertiseInterval_after]
  constructor
  · intro p hp htype
    exact exists_holdsFor_of_check hcheck hp (by rw [Pdu.isAnnouncement, htype]; rfl)
  · intro hlasts now link last p hlast
    have hmem : p ∈ ((start s.options.validTime linkUp).sends e
        (run ++ [.tick now link])).filter (·.isAnnouncement) := by
      rw [← map_announcements]
      exact List.mem_map_of_mem (List.mem_of_getLast? hlast)
    obtain ⟨hp, hannounces⟩ := List.mem_filter.mp hmem
    obtain ⟨lifetime, hholds, hlong⟩ := exists_holdsFor_of_check hcheck hp hannounces
    obtain ⟨_, _, hlast', -, -, hfresh⟩ :=
      (upToDate_after s.options.validTime linkUp e run now link).last
    obtain ⟨rfl, rfl⟩ := Prod.mk.inj (Option.some.inj (hlast.symm.trans hlast'))
    refine ⟨lifetime, hholds, fun next hnext => ?_⟩
    calc next ≤ now + (lifetime - max (s.validTime.toNat * 1000 / 2) 1000) := hnext
      _ ≤ last + max (s.validTime.toNat * 1000 / 2) 1000 +
          (lifetime - max (s.validTime.toNat * 1000 / 2) 1000) :=
        Nat.add_le_add_right (Nat.sub_le_iff_le_add'.mp hfresh) _
      _ = last + lifetime := by rw [Nat.add_assoc, Nat.add_sub_cancel' (hlong.mpr hlasts)]

/-- With the default of 31 seconds the announcement holds for more than the interval, and the entity
is kept until the next tick. -/
theorem lasts_by_default :
    ({} : Settings).check = .ok () ∧
      (∃ p lifetime, p ∈ (start 31 true).sends Model.duplex.entity [.tick 0 none] ∧
        p.messageType = .available ∧ p.HoldsFor lifetime ∧
        ((start 31 true).after Model.duplex.entity [.tick 0 none]).readvertiseInterval ≤
          lifetime) ∧
      ∃ p lifetime, ((start 31 true).announcements Model.duplex.entity
          [.tick 0 none, .tick 15000 none]).getLast? = some (0, p) ∧
        p.HoldsFor lifetime ∧ 15000 ≤ 0 + lifetime := by
  have hcheck : ({} : Settings).check = .ok () := by decide +kernel
  obtain ⟨hread, hkept⟩ := lasts_iff_of_check hcheck true Model.duplex.entity [.tick 0 none]
  obtain ⟨lifetime, hholds, hlasts⟩ :=
    hread ((start 31 true).announcement Model.duplex.entity .available) (by decide +kernel) rfl
  obtain ⟨lifetime', hholds', hnext⟩ := hkept (by decide) 15000 none 0
    ((start 31 true).announcement Model.duplex.entity .available) (by decide +kernel)
  exact ⟨hcheck, ⟨_, lifetime, by decide +kernel, rfl, hholds, hlasts.mpr (by decide)⟩,
    ⟨_, lifetime', by decide +kernel, hholds', hnext _ (Nat.le_add_right ..)⟩⟩

/-- With a lifetime of 32 seconds the entity is announced for none, and the next announcement is due
after 16 of them. -/
theorem not_lasts_of_check :
    ({ validTime := 32 } : Settings).check = .ok () ∧ Model.build .duplex .duplex = .ok .duplex ∧
      ∃ p ∈ (start 32 true).sends Model.duplex.entity [.tick 0 none], p.messageType = .available ∧
        p.HoldsFor 0 ∧
        ((start 32 true).after Model.duplex.entity [.tick 0 none]).readvertiseInterval = 16000 :=
  ⟨by decide +kernel, Model.build_duplex,
    (start 32 true).announcement Model.duplex.entity .available, by decide +kernel, rfl,
    Pdu.holdsFor _, (readvertiseInterval_after ..).trans (by decide)⟩

end Advertiser

end Discovery

end AvbEntity

import AvbEntity.Proofs.Connection.Retransmission
import Mathlib.Data.List.Forall2

/-!
# One tick deals with all commands whose time has run out

A tick lists the slots whose time has run out, and visits them in turn: the command in a slot is
sent again or given up there, while the slots that are still to come stay as they were listed.
Every visit sends one PDU, and no slot is visited twice. As the timeouts of what the relay passes
on are not zero, no command is due again when the tick is over, and another tick at the same time
finds nothing to do.

## Main definitions

* `Relay.visit`, `Relay.walk`: what is done about one slot, and about a list of slots in turn
* `Relay.Expires`: what a tick does to the slots and sends

## Main results

* `InFlight.mem_expired`, `InFlight.pairwise_expired`: the slots that a tick lists
* `Relay.tick_eq_walk`: a tick visits these slots one after another
* `Relay.expires_after`: this is what a tick does after every run
-/

namespace AvbEntity.Connection

/-! ## The slots whose time has run out -/

namespace InFlight

/-- The slots whose time has run out in a row of slots that starts with some number. -/
def expiredFrom (now : Time) (start : Nat) (slots : List (Option Entry)) : List Nat :=
  (slots.zipIdx start).filterMap fun (e?, slot) =>
    if e?.any (·.deadline ≤ now) then some slot else none

section

variable {now : Time} (start : Nat) (slots : List (Option Entry))

theorem expiredFrom_none :
    expiredFrom now start (none :: slots) = expiredFrom now (start + 1) slots := by
  simp [expiredFrom, List.zipIdx_cons]

theorem expiredFrom_of_lt {e : Entry} (h : now < e.deadline) :
    expiredFrom now start (some e :: slots) = expiredFrom now (start + 1) slots := by
  simp [expiredFrom, List.zipIdx_cons, h]

theorem expiredFrom_of_le {e : Entry} (h : e.deadline ≤ now) :
    expiredFrom now start (some e :: slots) = start :: expiredFrom now (start + 1) slots := by
  simp [expiredFrom, List.zipIdx_cons, h]

end

theorem mem_expired {t : InFlight} {now : Time} {slot : Nat} :
    slot ∈ t.expired now ↔ ∃ e, t.get? slot = some e ∧ e.deadline ≤ now := by
  simp only [expired, List.mem_filterMap, Prod.exists, List.mem_zipIdx_iff_getElem?, get?_eq_some]
  constructor
  · rintro ⟨e?, i, hslot, hlisted⟩
    obtain ⟨hdue, hi⟩ := Option.ite_none_right_eq_some.mp hlisted
    obtain ⟨e, rfl, hdeadline⟩ := (Option.any_eq_true _ _).mp hdue
    obtain rfl := Option.some.inj hi
    exact ⟨e, hslot, of_decide_eq_true hdeadline⟩
  · rintro ⟨e, hslot, hdeadline⟩
    exact ⟨some e, slot, hslot, by simp [hdeadline]⟩

/-- The slots are listed in their order. -/
theorem pairwise_expired (t : InFlight) (now : Time) : (t.expired now).Pairwise (· < ·) := by
  have hslots : (t.slots.zipIdx.map Prod.snd).Pairwise (· < ·) := by
    rw [List.zipIdx_map_snd]
    exact List.pairwise_lt_range'
  refine (List.pairwise_map.mp hslots).filterMap _ ?_
  rintro ⟨e?, i⟩ ⟨e?', j⟩ hij slot hslot slot' hslot'
  obtain rfl := Option.some.inj (Option.ite_none_right_eq_some.mp hslot).2
  obtain rfl := Option.some.inj (Option.ite_none_right_eq_some.mp hslot').2
  exact hij

/-- Changing the command of a slot puts the changed one there. -/
theorem modify_eq_set {t : InFlight} {slot : Nat} {e : Entry} (h : t.get? slot = some e)
    (f : Entry → Entry) : t.modify slot f = ⟨t.slots.set slot (some (f e))⟩ := by
  obtain ⟨hlt, hslot⟩ := List.getElem?_eq_some_iff.mp (get?_eq_some.mp h)
  refine congrArg InFlight.mk (List.ext_getElem? fun i => ?_)
  rw [List.getElem?_modify, List.getElem?_set]
  by_cases hi : slot = i
  · subst hi
    simp [hlt, hslot]
  · simp [hi]

end InFlight

/-- What is sent for a command whose time has run out: the command, or else the answer that it was
given up. -/
def Entry.overdue (e : Entry) : Pdu :=
  if e.retried then e.giveUp else e.command

theorem Entry.sent_of_le {now : Time} {e : Entry} (h : e.deadline ≤ now) :
    (e.tick now).2 = some e.overdue := by
  rw [overdue]
  cases hretried : e.retried with
  | false => rw [tick_of_le h hretried, if_neg Bool.false_ne_true]
  | true => rw [tick_of_retried h hretried, if_pos rfl]

namespace Relay

open InFlight (expiredFrom expiredFrom_none expiredFrom_of_lt expiredFrom_of_le)

/-! ## Slot after slot -/

/-- What is done about a slot that a tick visits: its command is sent again, or given up. -/
def visit (r : Relay) (now : Time) (slot : Nat) : Relay × List Pdu :=
  match r.inFlight.get? slot with
  | none => (r, [])
  | some e =>
    if e.retried then ({ r with inFlight := r.inFlight.remove slot }, [e.giveUp])
    else
      ({ r with
          inFlight := r.inFlight.modify slot (·.retry (now + e.command.messageType.timeout)) },
        [e.command])

/-- The slots of a list visited in turn, each with what the visits before it have left. -/
def walk (r : Relay) (now : Time) : List Nat → Relay × List Pdu
  | [] => (r, [])
  | slot :: slots =>
    let (r, sent) := r.visit now slot
    let (r, more) := r.walk now slots
    (r, sent ++ more)

theorem filterMap_tick_of_lt {now : Time} {e : Entry} (slots : List (Option Entry))
    (h : now < e.deadline) :
    (some e :: slots).filterMap (·.bind fun e => (e.tick now).2) =
      slots.filterMap (·.bind fun e => (e.tick now).2) := by
  simp [Entry.tick_of_lt h]

theorem filterMap_tick_of_le {now : Time} {e : Entry} (slots : List (Option Entry))
    (h : e.deadline ≤ now) :
    (some e :: slots).filterMap (·.bind fun e => (e.tick now).2) =
      e.overdue :: slots.filterMap (·.bind fun e => (e.tick now).2) := by
  simp [Entry.sent_of_le h]

/-- A visit to a slot whose time has run out leaves and sends what a tick makes of its command. -/
theorem visit_of_due {r : Relay} {now : Time} {slot : Nat} {e : Entry}
    (hget : r.inFlight.get? slot = some e) (hdue : e.deadline ≤ now) :
    r.visit now slot =
      ({ r with inFlight := ⟨r.inFlight.slots.set slot (e.tick now).1⟩ },
        (e.tick now).2.toList) := by
  rw [visit, hget]
  cases hretried : e.retried with
  | false =>
    simp only [InFlight.modify_eq_set hget, Entry.tick_of_le hdue hretried, hretried]
    rfl
  | true =>
    simp only [Entry.tick_of_retried hdue hretried, hretried]
    rfl

/-- What stands behind slots that were done with is visited as if it stood alone. -/
theorem walk_expiredFrom (now : Time) (next : UInt16) (done rest : List (Option Entry)) :
    ({ inFlight := ⟨done ++ rest⟩, nextSequenceId := next } : Relay).walk now
        (expiredFrom now done.length rest) =
      ({ inFlight := ⟨done ++ rest.map (·.bind fun e => (e.tick now).1)⟩, nextSequenceId := next },
        rest.filterMap (·.bind fun e => (e.tick now).2)) := by
  induction rest generalizing done with
  | nil => rfl
  | cons e? rest ih =>
    -- once the first of the remaining slots is done with, it counts among those that are
    have hrest : ∀ left : Option Entry,
        ({ inFlight := ⟨done ++ left :: rest⟩, nextSequenceId := next } : Relay).walk now
            (expiredFrom now (done.length + 1) rest) =
          ({ inFlight := ⟨done ++ left :: rest.map (·.bind fun e => (e.tick now).1)⟩,
             nextSequenceId := next }, rest.filterMap (·.bind fun e => (e.tick now).2)) := by
      intro left
      simpa using ih (done ++ [left])
    rw [List.map_cons]
    cases e? with
    | none =>
      rw [expiredFrom_none]
      exact hrest none
    | some e =>
      rw [Option.bind_some]
      obtain hwait | hdue := Nat.lt_or_ge now e.deadline
      · rw [expiredFrom_of_lt _ _ hwait, filterMap_tick_of_lt _ hwait, Entry.tick_of_lt hwait]
        exact hrest (some e)
      · have hget : (⟨done ++ some e :: rest⟩ : InFlight).get? done.length = some e := by
          simp [InFlight.get?]
        have hvisit := visit_of_due (r := ⟨⟨done ++ some e :: rest⟩, next⟩) hget hdue
        rw [expiredFrom_of_le _ _ hdue, filterMap_tick_of_le _ hdue, walk, hvisit,
          Entry.sent_of_le hdue]
        simp [hrest]

/-- A tick visits the slots whose time has run out, as they are listed before the first visit. -/
theorem tick_eq_walk (r : Relay) (now : Time) :
    r.tick now = r.walk now (r.inFlight.expired now) :=
  (walk_expiredFrom now r.nextSequenceId [] r.inFlight.slots).symm

/-- A tick sends one PDU for each of these slots, in their order. -/
theorem forall₂_expiredFrom (now : Time) (done rest : List (Option Entry)) :
    List.Forall₂
      (fun slot p => ∃ e, (⟨done ++ rest⟩ : InFlight).get? slot = some e ∧ p = e.overdue)
      (expiredFrom now done.length rest)
      (rest.filterMap (·.bind fun e => (e.tick now).2)) := by
  induction rest generalizing done with
  | nil => exact .nil
  | cons e? rest ih =>
    have hrest := ih (done ++ [e?])
    rw [List.append_assoc, List.singleton_append, List.length_append, List.length_singleton]
      at hrest
    cases e? with
    | none =>
      rw [expiredFrom_none]
      exact hrest
    | some e =>
      obtain hwait | hdue := Nat.lt_or_ge now e.deadline
      · rw [expiredFrom_of_lt _ _ hwait, filterMap_tick_of_lt _ hwait]
        exact hrest
      · rw [expiredFrom_of_le _ _ hdue, filterMap_tick_of_le _ hdue]
        exact .cons ⟨e, by simp [InFlight.get?], rfl⟩ hrest

/-! ## After the tick -/

/-- Where nothing is due, a tick does nothing. -/
theorem tick_eq_self {r : Relay} {now : Time}
    (h : ∀ slot e, r.inFlight.get? slot = some e → now < e.deadline) : r.tick now = (r, []) := by
  have hnone : r.inFlight.expired now = [] := by
    rw [List.eq_nil_iff_forall_not_mem]
    intro slot hslot
    obtain ⟨e, hget, hdue⟩ := InFlight.mem_expired.mp hslot
    exact Nat.not_lt.mpr hdue (h slot e hget)
  rw [tick_eq_walk, hnone, walk]

/-- The timeouts of commands to a talker are not zero. -/
theorem HoldsCommands.timeout_pos {r : Relay} (h : r.HoldsCommands) {slot : Nat} {e : Entry}
    (hget : r.inFlight.get? slot = some e) : 0 < e.command.messageType.timeout := by
  obtain ⟨x, hx, htype⟩ := h e (InFlight.mem_entries.mpr ⟨slot, hget⟩)
  rw [htype]
  rcases hx with rfl | rfl <;> exact Nat.succ_pos _

/-- What is in flight after a tick is not due at the time of the tick. -/
theorem HoldsCommands.lt_deadline {r : Relay} (h : r.HoldsCommands) {now : Time} {slot : Nat}
    {e' : Entry} (hget' : (r.tick now).1.inFlight.get? slot = some e') : now < e'.deadline := by
  rw [get?_tick, Option.bind_eq_some_iff] at hget'
  obtain ⟨e, hget, htick⟩ := hget'
  have hend := e.ticked now
  generalize e.tick now = result at hend htick
  cases hend with
  | waits hwait =>
    cases htick
    exact hwait
  | resent hdue hretried =>
    cases htick
    exact Nat.lt_add_of_pos_right (h.timeout_pos hget)
  | givenUp hdue hretried => cases htick

theorem holdsCommands_after (capacity : Nat) (run : List Event) :
    ((start capacity).after run).HoldsCommands := by
  have hrun : ∀ r : Relay, r.HoldsCommands → (r.after run).HoldsCommands := by
    induction run with
    | nil => exact fun r h => h
    | cons s run ih =>
      intro r h
      refine ih _ ?_
      cases s with
      | pdu m p now accepted => exact h.handle m p now accepted
      | tick now => exact h.tick now
  exact hrun _ (holdsCommands_start capacity)

/-- What a tick does to the slots, and what it sends. -/
structure Expires (r : Relay) (now : Time) : Prop where
  /-- It visits slots one after another, as they are listed before the first visit. -/
  walks : r.tick now = r.walk now (r.inFlight.expired now)
  /-- These are the slots with a command whose deadline is at or before the tick. -/
  due_iff : ∀ slot, slot ∈ r.inFlight.expired now ↔
    ∃ e, r.inFlight.get? slot = some e ∧ e.deadline ≤ now
  /-- Each of them is listed once, in their order. -/
  ascending : (r.inFlight.expired now).Pairwise (· < ·)
  /-- For each of them one PDU is sent, in the same order. -/
  sent : List.Forall₂ (fun slot p => ∃ e, r.inFlight.get? slot = some e ∧ p = e.overdue)
    (r.inFlight.expired now) (r.tick now).2
  /-- A command that was sent again before leaves its slot free. -/
  givenUp : ∀ slot e, r.inFlight.get? slot = some e → e.deadline ≤ now → e.retried →
    (r.tick now).1.inFlight.get? slot = none
  /-- Any other command that is due waits until another deadline. -/
  resent : ∀ slot e, r.inFlight.get? slot = some e → e.deadline ≤ now → e.retried = false →
    (r.tick now).1.inFlight.get? slot =
      some { e with retried := true, deadline := now + e.command.messageType.timeout }
  /-- All other slots are as they were. -/
  kept : ∀ slot, slot ∉ r.inFlight.expired now →
    (r.tick now).1.inFlight.get? slot = r.inFlight.get? slot
  capacity_eq : (r.tick now).1.inFlight.capacity = r.inFlight.capacity
  nextSequenceId_eq : (r.tick now).1.nextSequenceId = r.nextSequenceId
  /-- No command is due when the tick is over. -/
  later : ∀ slot e, (r.tick now).1.inFlight.get? slot = some e → now < e.deadline
  /-- Another tick at the same time does nothing. -/
  again : (r.tick now).1.tick now = ((r.tick now).1, [])

theorem HoldsCommands.expires {r : Relay} (h : r.HoldsCommands) (now : Time) : r.Expires now := by
  constructor
  case walks => exact r.tick_eq_walk now
  case due_iff => exact fun slot => InFlight.mem_expired
  case ascending => exact r.inFlight.pairwise_expired now
  case sent => exact forall₂_expiredFrom now [] r.inFlight.slots
  case givenUp =>
    intro slot e hget hdue hretried
    rw [get?_tick, hget, Option.bind_some, Entry.tick_of_retried hdue hretried]
  case resent =>
    intro slot e hget hdue hretried
    rw [get?_tick, hget, Option.bind_some, Entry.tick_of_le hdue hretried]
    rfl
  case kept =>
    intro slot hslot
    rw [get?_tick]
    cases hget : r.inFlight.get? slot with
    | none => rfl
    | some e =>
      have hwait : now < e.deadline := by
        apply Nat.lt_of_not_le
        intro hdue
        exact hslot (InFlight.mem_expired.mpr ⟨e, hget, hdue⟩)
      rw [Option.bind_some, Entry.tick_of_lt hwait]
  case capacity_eq => exact List.length_map _
  case nextSequenceId_eq => rfl
  case later => exact fun slot e => h.lt_deadline
  case again => exact tick_eq_self fun slot e => h.lt_deadline

/-- **One tick deals with all commands whose time has run out** and with no other, whatever happened
to the relay before. -/
theorem expires_after (capacity : Nat) (run : List Event) (now : Time) :
    ((start capacity).after run).Expires now :=
  (holdsCommands_after capacity run).expires now

end Relay

end AvbEntity.Connection

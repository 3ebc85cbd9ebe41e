import AvbEntity.Proofs.Connection.Retransmission
import Mathlib.Data.List.Induction

/-!
# Where the commands in flight come from

A command reaches a slot in one way only: a controller asked for it, a slot was free, and the
network accepted it. From then on it stays as it was sent until its slot is freed, so what is in
flight after a run is traced back to one event of the run.

Every command that is passed on uses up a sequence number, whether or not the network accepts it,
and nothing else does.

## Main definitions

* `Relay.passedOn`, `Relay.passed`: the commands that a step and a run pass on
* `Relay.Numbered`: what a step does to the slots and to the sequence numbers
* `Relay.Occupied`: a slot is never free during a run
* `Relay.Origin`, `Relay.Origin.Explains`: the event that a command in flight comes from

## Main results

* `Relay.nextSequenceId_after`: the next number tells how many commands were passed on
* `Relay.exists_origin`: every command in flight comes from an event of the run
-/

namespace AvbEntity.Connection.Relay

/-! ## Commands passed on -/

/-- The commands that a step passes on to a talker, whether or not the network accepts them. What a
tick sends again was passed on before. -/
def passedOn (r : Relay) : Event → List Pdu
  | .pdu m p now accepted => (r.handle m p now accepted).2.2.filter (·.messageType.isForTalker)
  | .tick _ => []

/-- The commands that a run passes on. -/
def passed (r : Relay) : List Event → List Pdu
  | [] => []
  | s :: run => r.passedOn s ++ (r.step s).1.passed run

theorem passed_append (r : Relay) (xs ys : List Event) :
    r.passed (xs ++ ys) = r.passed xs ++ (r.after xs).passed ys := by
  induction xs generalizing r with
  | nil => rfl
  | cons s xs ih => rw [List.cons_append, passed, passed, ih, List.append_assoc]; rfl

theorem after_concat (r : Relay) (xs : List Event) (s : Event) :
    r.after (xs ++ [s]) = ((r.after xs).step s).1 :=
  r.after_append xs [s]

/-- What a step does to the slots and to the sequence numbers, and what it passes on. -/
inductive Numbered (r : Relay) : Event → List Pdu → Relay → Prop
  | stored {m : Model} {p : Pdu} {x : Exchange} {now : Time} {s : Sink} {t : InFlight} {slot : Nat}
    (hx : x.IsRelayed) (htype : p.messageType = .command x.ofController)
    (hsink : m.sink? m.current p.listenerUniqueId = some s)
    (hinsert : r.inFlight.insert (r.entryFor p x now) = some (t, slot)) :
    Numbered r (.pdu m p now true) [r.outgoing p x]
      { inFlight := t, nextSequenceId := r.nextSequenceId + 1 }
  | unsent {m : Model} {p : Pdu} {x : Exchange} {now : Time} :
    Numbered r (.pdu m p now false) [r.outgoing p x]
      { r with nextSequenceId := r.nextSequenceId + 1 }
  | freed {m : Model} {p : Pdu} {now : Time} {accepted : Bool} {slot : Nat} :
    Numbered r (.pdu m p now accepted) [] { r with inFlight := r.inFlight.remove slot }
  | kept {m : Model} {p : Pdu} {now : Time} {accepted : Bool} :
    Numbered r (.pdu m p now accepted) [] r
  | ticked {now : Time} : Numbered r (.tick now) [] (r.tick now).1

theorem numbered (r : Relay) (s : Event) : r.Numbered s (r.passedOn s) (r.step s).1 := by
  cases s with
  | tick now => exact .ticked
  | pdu m p now accepted =>
    rw [passedOn, step]
    have hend := handled r m p now accepted
    generalize r.handle m p now accepted = result at hend ⊢
    cases hend with
    | @request x hx htype =>
      have hrefused : ∀ status, [p.respond status].filter (·.messageType.isForTalker) = [] := by
        intro status
        refine List.filter_cons_of_neg ?_
        rw [Pdu.messageType_respond htype status]
        exact Bool.false_ne_true
      have hcommand : [r.outgoing p x].filter (·.messageType.isForTalker) = [r.outgoing p x] :=
        List.filter_cons_of_pos (MessageType.isForTalker_of_isRelayed hx)
      have hend := requested r m p x now accepted
      generalize r.request m p x now accepted = result at hend ⊢
      cases hend with
      | unknown hsink => rw [hrefused]; exact .kept
      | refused hsink hrefusal => rw [hrefused]; exact .kept
      | full hsink hrefusal hfull => rw [hrefused]; exact .kept
      | unsent hsink hrefusal hinsert =>
        rw [← List.singleton_append, List.filter_append, hcommand, hrefused, List.append_nil]
        exact .unsent
      | forwarded hsink hrefusal hinsert =>
        rw [hcommand]
        exact .stored hx htype hsink hinsert
    | @settle x hx htype =>
      have hend := settled r m p x
      generalize r.settle m p x = result at hend ⊢
      cases hend with
      | unknown hsink => exact .kept
      | unsolicited hsink htake => exact .kept
      | answered hsink htake =>
        obtain ⟨slot, -, rfl⟩ := InFlight.take?_eq_some.mp htake
        exact .freed
    | describe htype =>
      have hdescribe : (describe m p).messageType = .response .getRxState := by
        unfold describe
        split <;> exact Pdu.messageType_respond htype .success
      have hanswer : [describe m p].filter (·.messageType.isForTalker) = [] := by
        refine List.filter_cons_of_neg ?_
        rw [hdescribe]
        exact Bool.false_ne_true
      rw [hanswer]
      exact .kept
    | ignored htype => exact .kept

theorem nextSequenceId_step (r : Relay) (s : Event) :
    (r.step s).1.nextSequenceId = r.nextSequenceId + .ofNat (r.passedOn s).length := by
  have hend := r.numbered s
  generalize r.passedOn s = sent, (r.step s).1 = r' at hend ⊢
  cases hend with
  | stored hx htype hsink hinsert => rfl
  | unsent => rfl
  | freed => exact (UInt16.add_zero _).symm
  | kept => exact (UInt16.add_zero _).symm
  | ticked => exact (UInt16.add_zero _).symm

/-- The next number tells how many commands were passed on. -/
theorem nextSequenceId_after (r : Relay) (run : List Event) :
    (r.after run).nextSequenceId = r.nextSequenceId + .ofNat (r.passed run).length := by
  induction run generalizing r with
  | nil => exact (UInt16.add_zero _).symm
  | cons s run ih =>
    rw [after_cons, ih, nextSequenceId_step, passed, List.length_append, UInt16.ofNat_add,
      UInt16.add_assoc]

/-- A step passes on one command at most. -/
theorem length_passedOn_le (r : Relay) (s : Event) : (r.passedOn s).length ≤ 1 := by
  have hend := r.numbered s
  generalize r.passedOn s = sent, (r.step s).1 = r' at hend ⊢
  cases hend <;> simp

theorem length_passed_le (r : Relay) (run : List Event) : (r.passed run).length ≤ run.length := by
  induction run generalizing r with
  | nil => exact Nat.le_refl 0
  | cons s run ih =>
    have := r.length_passedOn_le s
    have := ih (r.step s).1
    rw [passed, List.length_append, List.length_cons]
    omega

/-! ## The event behind a command in flight -/

/-- The slot is free neither before a run nor after any of its events. -/
def Occupied (r : Relay) (slot : Nat) (run : List Event) : Prop :=
  ∀ xs, xs <+: run → (r.after xs).inFlight.get? slot ≠ none

theorem Occupied.concat {r : Relay} {slot : Nat} {run : List Event} {s : Event}
    (h : r.Occupied slot run) (hs : (r.after (run ++ [s])).inFlight.get? slot ≠ none) :
    r.Occupied slot (run ++ [s]) := by
  intro xs hxs
  rcases List.prefix_concat_iff.mp hxs with rfl | hxs
  · exact hs
  · exact h xs hxs

/-- An event at which a controller's command was handled and the network accepted what the relay
made of it, in the middle of a run. -/
structure Origin where
  /-- The run up to the event. -/
  before : List Event
  model : Model
  /-- The controller's command. -/
  request : Pdu
  now : Time
  /-- The exchange with the talker. -/
  exchange : Exchange
  /-- The run after the event. -/
  since : List Event

namespace Origin

/-- The event itself. -/
def event (o : Origin) : Event :=
  .pdu o.model o.request o.now true

/-- The whole run. -/
def run (o : Origin) : List Event :=
  o.before ++ o.event :: o.since

/-- The command in a slot comes from the event: the controller asked for it, the slot was the first
free one, what was sent is what the slot still holds, and the slot was not free again. -/
structure Explains (o : Origin) (r : Relay) (slot : Nat) (e : Entry) : Prop where
  relayed : o.exchange.IsRelayed
  asked : o.request.messageType = .command o.exchange.ofController
  sink : (o.model.sink? o.model.current o.request.listenerUniqueId).isSome
  free : (r.after o.before).inFlight.IsFirstFree slot
  command : e.command = (r.after o.before).outgoing o.request o.exchange
  number : e.controllerSequenceId = o.request.sequenceId
  passes : (r.after o.before).passedOn o.event = [e.command]
  stays : (r.after (o.before ++ [o.event])).Occupied slot o.since

variable {o : Origin} {r : Relay} {slot : Nat} {e e' : Entry}

/-- A slot that keeps its command through one more event keeps the origin. -/
theorem Explains.concat (h : o.Explains r slot e) {s : Event}
    (hget : (r.after (o.run ++ [s])).inFlight.get? slot = some e')
    (hcommand : e'.command = e.command)
    (hnumber : e'.controllerSequenceId = e.controllerSequenceId) :
    ({ o with since := o.since ++ [s] } : Origin).Explains r slot e' where
  relayed := h.relayed
  asked := h.asked
  sink := h.sink
  free := h.free
  command := hcommand.trans h.command
  number := hnumber.trans h.number
  passes := h.passes.trans (by rw [hcommand])
  stays := by
    refine h.stays.concat ?_
    have hrun : o.run ++ [s] = (o.before ++ [o.event]) ++ (o.since ++ [s]) := by simp [run]
    rw [hrun, after_append] at hget
    exact hget ▸ Option.some_ne_none e'

end Origin

theorem get?_start (capacity slot : Nat) : (start capacity).inFlight.get? slot = none := by
  rw [start, InFlight.get?, InFlight.empty, List.getElem?_replicate]
  split <;> rfl

/-- Every command in flight comes from an event of the run. -/
theorem exists_origin {r : Relay} (hempty : ∀ slot, r.inFlight.get? slot = none)
    {run : List Event} {slot : Nat} {e : Entry}
    (hget : (r.after run).inFlight.get? slot = some e) :
    ∃ o : Origin, o.run = run ∧ o.Explains r slot e := by
  -- from the end, since it is the last event that filled the slot which counts
  induction run using List.reverseRecOn generalizing e with
  | nil => exact absurd (hget.symm.trans (hempty slot)) (Option.some_ne_none e)
  | append_singleton run s ih =>
    have hearlier : ∀ e₀, (r.after run).inFlight.get? slot = some e₀ → e.command = e₀.command →
        e.controllerSequenceId = e₀.controllerSequenceId →
        ∃ o : Origin, o.run = run ++ [s] ∧ o.Explains r slot e := by
      intro e₀ hget₀ hcommand hnumber
      obtain ⟨o, rfl, ho⟩ := ih hget₀
      exact ⟨{ o with since := o.since ++ [s] }, by simp [Origin.run, Origin.event],
        ho.concat hget hcommand hnumber⟩
    have hend := (r.after run).numbered s
    have hstep := hget
    rw [after_concat] at hstep
    generalize hpassed : (r.after run).passedOn s = sent, ((r.after run).step s).1 = r'
      at hend hstep
    cases hend with
    | @stored m p x now sink t slot' hx htype hsink hinsert =>
      rw [get?_insert hinsert] at hstep
      split at hstep
      next hslot =>
        obtain rfl := hslot
        obtain rfl := Option.some.inj hstep
        refine ⟨⟨run, m, p, now, x, []⟩, rfl, hx, htype, ?_, ?_, rfl, rfl, hpassed, ?_⟩
        · exact hsink ▸ rfl
        · exact (InFlight.insert_eq_some.mp hinsert).1
        · intro xs hxs
          obtain rfl := List.prefix_nil.mp hxs
          exact hget ▸ Option.some_ne_none _
      next => exact hearlier e hstep rfl rfl
    | unsent => exact hearlier e hstep rfl rfl
    | @freed m p now accepted slot' =>
      by_cases hslot : slot' = slot
      · obtain rfl := hslot
        rw [InFlight.get?_remove_self] at hstep
        cases hstep
      · rw [InFlight.get?_remove_of_ne _ hslot] at hstep
        exact hearlier e hstep rfl rfl
    | kept => exact hearlier e hstep rfl rfl
    | ticked =>
      rw [get?_tick] at hstep
      obtain ⟨e₀, hget₀, htick⟩ := Option.bind_eq_some_iff.mp hstep
      obtain ⟨hcommand, hnumber⟩ := tick_keeps htick
      exact hearlier e₀ hget₀ hcommand hnumber

end AvbEntity.Connection.Relay

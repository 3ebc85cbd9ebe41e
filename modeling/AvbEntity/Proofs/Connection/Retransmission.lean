import AvbEntity.Proofs.Connection.Relay
import AvbEntity.Proofs.Model.Build

/-!
# A command is sent once more, and then given up

A command that the relay passed on stays in its slot until the talker answers it. The ticks watch
over it: the first one after its deadline sends it again, and the first one after its second
deadline gives it up and answers the controller. Whatever else happens meanwhile, in other slots or
in this one once it is free again, has no part in that.

The slots are known by what they hold and by what they add to a tick, so that a command is told
from another one with the same octets.

## Main definitions

* `Relay.Event`, `Relay.step`, `Relay.after`: runs of the relay
* `Relay.Frees`, `Relay.Answered`: a step frees a slot, and does so as the talker's answer
* `Relay.Unanswered`: no event of a run is such an answer
* `Relay.TickSends`: what a slot adds to what a tick sends
* `Relay.Forwards`: a step passes a command on and keeps it in a slot
* `Relay.Supervised`: a command in a slot is sent once more and then given up

## Main results

* `Relay.supervised_of_sent`: every command that is passed on is supervised
* `Relay.answered_of_frees`: no PDU but the talker's answer to its command frees a slot
-/

namespace AvbEntity.Connection.Relay

/-! ## Runs -/

/-- What the relay meets: a PDU, handled in some state of the model while the network accepts the
first PDU sent in turn or not, or a tick. -/
inductive Event where
  | pdu (m : Model) (p : Pdu) (now : Time) (accepted : Bool)
  | tick (now : Time)
  deriving DecidableEq

/-- The relay after an event, and the PDUs to send in turn. -/
def step (r : Relay) : Event → Relay × List Pdu
  | .pdu m p now accepted => ((r.handle m p now accepted).1, (r.handle m p now accepted).2.2)
  | .tick now => r.tick now

/-- The relay after a run. -/
def after (r : Relay) (run : List Event) : Relay :=
  run.foldl (fun r s => (r.step s).1) r

theorem after_cons (r : Relay) (s : Event) (run : List Event) :
    r.after (s :: run) = (r.step s).1.after run :=
  rfl

theorem after_append (r : Relay) (xs ys : List Event) :
    r.after (xs ++ ys) = (r.after xs).after ys :=
  List.foldl_append

/-- The ticks of a run are all before a deadline. -/
def Before (deadline : Time) (run : List Event) : Prop :=
  ∀ now, .tick now ∈ run → now < deadline

/-- A slot is free after a step, and was not before it. -/
def Frees (r : Relay) (slot : Nat) (s : Event) : Prop :=
  r.inFlight.get? slot ≠ none ∧ (r.step s).1.inFlight.get? slot = none

/-- The talker's answer to a command frees the slot of the command: a response of the same exchange
under the same sequence number. -/
inductive Answered (r : Relay) (slot : Nat) (command : Pdu) : Event → Prop
  | intro {m : Model} {p : Pdu} {now : Time} {accepted : Bool} {x : Exchange}
    (hresponse : p.messageType = .response x) (hcommand : command.messageType = .command x)
    (hnumber : p.sequenceId = command.sequenceId)
    (hfrees : r.Frees slot (.pdu m p now accepted)) :
    Answered r slot command (.pdu m p now accepted)

/-- No answer to a command frees its slot during a run. -/
def Unanswered (r : Relay) (slot : Nat) (command : Pdu) : List Event → Prop
  | [] => True
  | s :: run => ¬ r.Answered slot command s ∧ (r.step s).1.Unanswered slot command run

theorem unanswered_append {r : Relay} {slot : Nat} {command : Pdu} {xs ys : List Event} :
    r.Unanswered slot command (xs ++ ys) ↔
      r.Unanswered slot command xs ∧ (r.after xs).Unanswered slot command ys := by
  induction xs generalizing r with
  | nil => exact (true_and _).symm.to_iff
  | cons s xs ih => rw [List.cons_append, Unanswered, Unanswered, ih, and_assoc]; rfl

/-! ## One slot in a step -/

/-- A command that is passed on is sent and nothing else, and goes to a slot that was free. -/
structure Forwards (r : Relay) (slot : Nat) (e : Entry) (s : Event) : Prop where
  free : r.inFlight.get? slot = none
  sent : (r.step s).2 = [e.command]
  stored : (r.step s).1.inFlight.get? slot = some e

theorem get?_insert {t t' : InFlight} {e : Entry} {slot : Nat} (h : t.insert e = some (t', slot))
    (i : Nat) : t'.get? i = if slot = i then some e else t.get? i := by
  obtain ⟨hfirst, rfl⟩ := InFlight.insert_eq_some.mp h
  rw [InFlight.get?_set]
  simp only [hfirst.lt, and_true]

/-- A PDU passes on a command and keeps it in the slot, or frees the slot as the talker's answer to
what it holds, or leaves it. -/
inductive SlotHandled (r : Relay) (slot : Nat) (s : Event) (p : Pdu) : Option Entry → Prop
  | forwarded {e : Entry} (h : r.Forwards slot e s) : SlotHandled r slot s p (some e)
  | answered {x : Exchange} {e : Entry} (htype : p.messageType = .response x)
    (hget : r.inFlight.get? slot = some e) (hmatch : e.isFor (.command x) p.sequenceId) :
    SlotHandled r slot s p none
  | left : SlotHandled r slot s p (r.inFlight.get? slot)

theorem slotHandled (r : Relay) (slot : Nat) (m : Model) (p : Pdu) (now : Time)
    (accepted : Bool) :
    SlotHandled r slot (.pdu m p now accepted) p
      ((r.handle m p now accepted).1.inFlight.get? slot) := by
  -- what a forwarded command leads to is said of the event, so the result is kept in an equation
  have hend := handled r m p now accepted
  generalize hresult : r.handle m p now accepted = result at hend ⊢
  cases hend with
  | @request x hx htype =>
    have hend := requested r m p x now accepted
    generalize hrequest : r.request m p x now accepted = result at hend hresult ⊢
    cases hend with
    | unknown hsink => exact .left
    | refused hsink hrefusal => exact .left
    | full hsink hrefusal hfull => exact .left
    | unsent hsink hrefusal hinsert => exact .left
    | @forwarded s t slot' hsink hrefusal hinsert =>
      have hget := get?_insert hinsert slot
      by_cases hslot : slot' = slot
      · rw [if_pos hslot] at hget
        have hfree := (InFlight.insert_eq_some.mp hinsert).1.get?_eq_none
        show SlotHandled r slot _ p (t.get? slot)
        rw [hget]
        refine .forwarded ⟨hslot ▸ hfree, ?_, ?_⟩
        · rw [step, hresult]
          rfl
        · rw [step, hresult]
          exact hget
      · rw [if_neg hslot] at hget
        show SlotHandled r slot _ p (t.get? slot)
        rw [hget]
        exact .left
  | @settle x hx htype =>
    have hend := settled r m p x
    generalize r.settle m p x = result at hend ⊢
    cases hend with
    | unknown hsink => exact .left
    | unsolicited hsink htake => exact .left
    | @answered s e t hsink htake =>
      obtain ⟨slot', hfirst, rfl⟩ := InFlight.take?_eq_some.mp htake
      by_cases hslot : slot' = slot
      · subst hslot
        show SlotHandled r slot' _ p ((r.inFlight.remove slot').get? slot')
        rw [InFlight.get?_remove_self]
        exact .answered htype hfirst.get hfirst.matching
      · show SlotHandled r slot _ p ((r.inFlight.remove slot').get? slot)
        rw [InFlight.get?_remove_of_ne _ hslot]
        exact .left
  | describe htype => exact .left
  | ignored htype => exact .left

/-- What a slot adds to what a tick sends: these PDUs are sent with the slot as it is, and all the
others would be sent all the same if it were free. -/
def TickSends (r : Relay) (slot : Nat) (now : Time) (ps : List Pdu) : Prop :=
  ∃ before after, (r.tick now).2 = before ++ ps ++ after ∧
    ({ r with inFlight := r.inFlight.remove slot }.tick now).2 = before ++ after

theorem tickSends (r : Relay) (slot : Nat) (now : Time) :
    r.TickSends slot now ((r.inFlight.get? slot).bind fun e => (e.tick now).2).toList := by
  by_cases hslot : slot < r.inFlight.slots.length
  · -- the slots before and after this one, which the tick visits in turn
    have hsplit : r.inFlight.slots = r.inFlight.slots.take slot ++
        r.inFlight.slots[slot] :: r.inFlight.slots.drop (slot + 1) := by
      rw [List.getElem_cons_drop, List.take_append_drop]
    have hget : r.inFlight.get? slot = r.inFlight.slots[slot] := by
      rw [InFlight.get?, List.getElem?_eq_getElem hslot, Option.join_some]
    refine ⟨(r.inFlight.slots.take slot).filterMap (·.bind fun e => (e.tick now).2),
      (r.inFlight.slots.drop (slot + 1)).filterMap (·.bind fun e => (e.tick now).2), ?_, ?_⟩
    · have hsent := congrArg (List.filterMap (·.bind fun e => (e.tick now).2)) hsplit
      rw [List.filterMap_append, List.filterMap_cons] at hsent
      rw [hget, List.append_assoc]
      refine hsent.trans ?_
      cases r.inFlight.slots[slot].bind fun e => (e.tick now).2 <;> rfl
    · rw [tick, InFlight.remove, List.set_eq_take_append_cons_drop, if_pos hslot,
        List.filterMap_append]
      rfl
  · have hget : r.inFlight.get? slot = none := by
      rw [InFlight.get?, List.getElem?_eq_none (Nat.le_of_not_lt hslot), Option.join_none]
    have hremove : r.inFlight.remove slot = r.inFlight := by
      rw [InFlight.remove, List.set_eq_of_length_le (Nat.le_of_not_lt hslot)]
    rw [hget]
    refine ⟨(r.tick now).2, [], ?_, ?_⟩
    · simp
    · rw [hremove, List.append_nil]

theorem tickSends_of_get? {r : Relay} {slot : Nat} {e : Entry} (h : r.inFlight.get? slot = some e)
    (now : Time) : r.TickSends slot now (e.tick now).2.toList := by
  have hsends := r.tickSends slot now
  rwa [h, Option.bind_some] at hsends

/-! ## A command in its slot -/

/-- A PDU that frees a slot is the talker's answer to the command in it. -/
theorem answered_of_frees {r : Relay} {slot : Nat} {e : Entry} {m : Model} {p : Pdu} {now : Time}
    {accepted : Bool} (hget : r.inFlight.get? slot = some e)
    (h : r.Frees slot (.pdu m p now accepted)) :
    r.Answered slot e.command (.pdu m p now accepted) := by
  have hend := r.slotHandled slot m p now accepted
  rw [show (r.handle m p now accepted).1.inFlight.get? slot = none from h.2] at hend
  generalize hleft : (none : Option Entry) = result at hend
  cases hend with
  | forwarded h => exact absurd hleft (Option.some_ne_none _).symm
  | answered htype hget' hmatch =>
    obtain rfl := Option.some.inj (hget.symm.trans hget')
    obtain ⟨hcommand, hnumber⟩ := Entry.isFor_iff.mp hmatch
    exact .intro htype hcommand hnumber.symm h
  | left => exact absurd hleft.symm h.1

/-- A command stays in its slot while the talker does not answer it and no tick is too late. -/
theorem get?_step {r : Relay} {slot : Nat} {e : Entry} (hget : r.inFlight.get? slot = some e)
    {s : Event} (hs : ¬ r.Answered slot e.command s)
    (hbefore : ∀ now, s = .tick now → now < e.deadline) :
    (r.step s).1.inFlight.get? slot = some e := by
  cases s with
  | tick now =>
    rw [step, get?_tick, hget, Option.bind_some, Entry.tick_of_lt (hbefore now rfl)]
  | pdu m p now accepted =>
    have hend := r.slotHandled slot m p now accepted
    rw [step]
    generalize hresult : (r.handle m p now accepted).1.inFlight.get? slot = result at hend ⊢
    cases hend with
    | forwarded h => exact absurd (hget.symm.trans h.free) (Option.some_ne_none e)
    | answered htype hget' hmatch =>
      have hfrees : r.Frees slot (.pdu m p now accepted) :=
        ⟨hget ▸ Option.some_ne_none e, hresult⟩
      exact absurd (answered_of_frees hget hfrees) hs
    | left => exact hget

theorem get?_after {r : Relay} {slot : Nat} {e : Entry} (hget : r.inFlight.get? slot = some e)
    {run : List Event} (hrun : r.Unanswered slot e.command run) (hbefore : Before e.deadline run) :
    (r.after run).inFlight.get? slot = some e := by
  -- event by event, since none of them changes the slot
  induction run generalizing r with
  | nil => exact hget
  | cons s run ih =>
    have hget' := get?_step hget hrun.1 fun now hs => hbefore now (hs ▸ List.mem_cons_self)
    exact ih hget' hrun.2 fun now hs => hbefore now (List.mem_cons_of_mem _ hs)

/-- A command that is in a slot now and was not before was passed on meanwhile. -/
theorem forwards_of_get? {r : Relay} {slot : Nat} {e : Entry} {run : List Event}
    (hfree : r.inFlight.get? slot = none) (hget : (r.after run).inFlight.get? slot = some e) :
    ∃ xs s ys e', run = xs ++ s :: ys ∧ (r.after xs).Forwards slot e' s := by
  induction run generalizing r with
  | nil => exact absurd (hget.symm.trans hfree) (Option.some_ne_none e)
  | cons s run ih =>
    by_cases hfree' : (r.step s).1.inFlight.get? slot = none
    · obtain ⟨xs, s', ys, e', rfl, h⟩ := ih hfree' hget
      exact ⟨s :: xs, s', ys, e', rfl, h⟩
    · cases s with
      | tick now =>
        rw [step, get?_tick, hfree, Option.bind_none] at hfree'
        exact absurd rfl hfree'
      | pdu m p now accepted =>
        have hend := r.slotHandled slot m p now accepted
        rw [step] at hfree'
        generalize (r.handle m p now accepted).1.inFlight.get? slot = result at hend hfree'
        cases hend with
        | forwarded h => exact ⟨[], _, run, _, rfl, h⟩
        | answered htype hget' hmatch => exact absurd rfl hfree'
        | left => exact absurd hfree hfree'

/-! ## Supervision -/

/-- A slot holds a command that waits for its answer until a deadline. Whatever happens afterwards,
as long as no answer to it frees the slot, the command is sent once more, is given up a timeout
after that, and is sent at no other tick. -/
structure Supervised (r : Relay) (slot : Nat) (command answer : Pdu) (deadline timeout : Time) :
    Prop where
  /-- Before the deadline nothing is sent for the command. -/
  waits : ∀ run now, r.Unanswered slot command run → Before deadline run → now < deadline →
    (r.after run).TickSends slot now []
  /-- The first tick after the deadline sends the command as it was, and does not give it up,
  however late it is. -/
  resends : ∀ run now, r.Unanswered slot command run → Before deadline run → deadline ≤ now →
    (r.after run).TickSends slot now [command] ∧ ¬ (r.after run).Frees slot (.tick now)
  /-- Then nothing is sent for the command before its second deadline. -/
  waitsAgain : ∀ run now run' now', r.Unanswered slot command (run ++ .tick now :: run') →
    Before deadline run → deadline ≤ now → Before (now + timeout) run' → now' < now + timeout →
    (r.after (run ++ .tick now :: run')).TickSends slot now' []
  /-- The first tick after that gives the command up: one answer to the controller, and a free
  slot. -/
  givesUp : ∀ run now run' now', r.Unanswered slot command (run ++ .tick now :: run') →
    Before deadline run → deadline ≤ now → Before (now + timeout) run' → now + timeout ≤ now' →
    (r.after (run ++ .tick now :: run')).TickSends slot now' [answer] ∧
      (r.after (run ++ .tick now :: run')).Frees slot (.tick now')
  /-- Once the slot is free, by an answer or by giving up, no tick sends anything for the slot until
  another command was passed on and is kept there. -/
  ends : ∀ run s run' now, (r.after run).Frees slot s →
    (r.after (run ++ s :: run')).TickSends slot now [] ∨
      ∃ xs s' ys e, run' = xs ++ s' :: ys ∧ (r.after (run ++ s :: xs)).Forwards slot e s'

section

variable {r : Relay} {slot : Nat} {e : Entry}

theorem ends_of_frees {s : Event} (h : r.Frees slot s) (run : List Event) (now : Time) :
    (r.after (s :: run)).TickSends slot now [] ∨
      ∃ xs s' ys e, run = xs ++ s' :: ys ∧ (r.after (s :: xs)).Forwards slot e s' := by
  cases hget : (r.after (s :: run)).inFlight.get? slot with
  | none =>
    have hsends := (r.after (s :: run)).tickSends slot now
    rw [hget] at hsends
    exact .inl hsends
  | some e =>
    obtain ⟨xs, s', ys, e', rfl, hforwards⟩ := forwards_of_get? h.2 hget
    exact .inr ⟨xs, s', ys, e', rfl, hforwards⟩

/-- A tick after the deadline leaves the command with a new deadline. -/
theorem get?_resend (hget : r.inFlight.get? slot = some e) (hretried : e.retried = false)
    {now : Time} (hdue : e.deadline ≤ now) :
    (r.step (.tick now)).1.inFlight.get? slot =
      some (e.retry (now + e.command.messageType.timeout)) := by
  rw [step, get?_tick, hget, Option.bind_some, Entry.tick_of_le hdue hretried]

/-- A command that was not sent again is supervised. -/
theorem supervised_of_get? (hget : r.inFlight.get? slot = some e) (hretried : e.retried = false) :
    r.Supervised slot e.command e.giveUp e.deadline e.command.messageType.timeout where
  waits run now hrun hbefore hnow := by
    have hsends := tickSends_of_get? (get?_after hget hrun hbefore) now
    rwa [Entry.tick_of_lt hnow] at hsends
  resends run now hrun hbefore hdue := by
    have hget' := get?_after hget hrun hbefore
    have hsends := tickSends_of_get? hget' now
    rw [Entry.tick_of_le hdue hretried] at hsends
    refine ⟨hsends, fun hfrees => ?_⟩
    exact Option.some_ne_none _ ((get?_resend hget' hretried hdue).symm.trans hfrees.2)
  waitsAgain run now run' now' hrun hbefore hdue hbefore' hnow' := by
    obtain ⟨hrun, -, hrun'⟩ := unanswered_append.mp hrun
    have hget' := get?_resend (get?_after hget hrun hbefore) hretried hdue
    have hsends := tickSends_of_get? (get?_after hget' hrun' hbefore') now'
    rw [Entry.tick_of_lt hnow'] at hsends
    rwa [after_append]
  givesUp run now run' now' hrun hbefore hdue hbefore' hdue' := by
    obtain ⟨hrun, -, hrun'⟩ := unanswered_append.mp hrun
    have hget' := get?_resend (get?_after hget hrun hbefore) hretried hdue
    have hget'' := get?_after hget' hrun' hbefore'
    have hsends := tickSends_of_get? hget'' now'
    rw [Entry.tick_of_retried hdue' rfl] at hsends
    rw [after_append]
    refine ⟨hsends, fun hnone => ?_, ?_⟩
    · exact Option.some_ne_none _ (hget''.symm.trans hnone)
    · show ((Relay.tick _ now').1.inFlight.get? slot) = none
      rw [get?_tick]
      refine (congrArg (Option.bind · _) hget'').trans ?_
      rw [Option.bind_some, Entry.tick_of_retried hdue' rfl]
  ends run s run' now hfrees := by
    have hends := ends_of_frees hfrees run' now
    simpa only [after_append] using hends

end

/-- A PDU whose only effect on the network is a command to a talker leaves that command in a slot
that was free, under the sequence number of the controller. -/
theorem forwarded_of_sent {r : Relay} {m : Model} {p c : Pdu} {now : Time} {accepted : Bool}
    {x : Exchange} (hsent : (r.handle m p now accepted).2.2 = [c])
    (hcommand : c.messageType = .command x) :
    x.IsRelayed ∧ ∃ slot, r.inFlight.get? slot = none ∧
      (r.handle m p now accepted).1.inFlight.get? slot =
        some { command := c, controllerSequenceId := p.sequenceId,
               deadline := now + x.timeout } := by
  have hnot : ∀ {q : Pdu} {y : Exchange}, q.messageType = .response y → [q] ≠ [c] := by
    intro q y hq hqc
    obtain rfl := List.singleton_inj.mp hqc
    exact MessageType.noConfusion (hcommand.symm.trans hq)
  have hend := handled r m p now accepted
  generalize r.handle m p now accepted = result at hend hsent ⊢
  cases hend with
  | @request y hy htype =>
    have hend := requested r m p y now accepted
    generalize r.request m p y now accepted = result at hend hsent ⊢
    cases hend with
    | unknown hsink => exact absurd hsent (hnot rfl)
    | refused hsink hrefusal => exact absurd hsent (hnot rfl)
    | full hsink hrefusal hfull => exact absurd hsent (hnot rfl)
    | unsent hsink hrefusal hinsert => simp at hsent
    | @forwarded s t slot hsink hrefusal hinsert =>
      obtain rfl := List.singleton_inj.mp hsent
      obtain rfl : y = x := MessageType.command.inj hcommand
      refine ⟨hy, slot, (InFlight.insert_eq_some.mp hinsert).1.get?_eq_none, ?_⟩
      have hget := get?_insert hinsert slot
      rwa [if_pos rfl] at hget
  | @settle y hy htype =>
    have hend := settled r m p y
    generalize r.settle m p y = result at hend hsent ⊢
    cases hend with
    | unknown hsink => simp at hsent
    | unsolicited hsink htake => simp at hsent
    | answered hsink htake => exact absurd hsent (hnot rfl)
  | describe htype =>
    have hresponse : (describe m p).messageType = .response .getRxState := by
      have hrespond : p.messageType.toResponse = .response .getRxState := htype ▸ rfl
      unfold describe
      split <;> exact hrespond
    exact absurd hsent (hnot hresponse)
  | ignored htype => simp at hsent

/-- **One retransmission, then one timeout**: in whatever state the relay is and whatever happens
afterwards, a command that it passed on waits 2 seconds for the answer to a connection, or 200
milliseconds for the answer to a disconnection, is then sent once more, and after the same time is
given up with an answer to the controller. -/
theorem supervised_of_sent {r : Relay} {m : Model} {p c : Pdu} {now : Time} {accepted : Bool}
    {x : Exchange} (hsent : (r.handle m p now accepted).2.2 = [c])
    (hcommand : c.messageType = .command x) :
    ∃ slot, r.inFlight.get? slot = none ∧
      (x = .connectTx ∧
          (r.handle m p now accepted).1.Supervised slot c
            { c with
              messageType := .response .connectRx
              status := .listenerTalkerTimeout
              sequenceId := p.sequenceId } (now + 2000) 2000 ∨
        x = .disconnectTx ∧
          (r.handle m p now accepted).1.Supervised slot c
            { c with
              messageType := .response .disconnectRx
              status := .listenerTalkerTimeout
              sequenceId := p.sequenceId } (now + 200) 200) := by
  obtain ⟨hx, slot, hfree, hget⟩ := forwarded_of_sent hsent hcommand
  have hsupervised := supervised_of_get? hget rfl
  refine ⟨slot, hfree, ?_⟩
  simp only [Entry.giveUp, hcommand, MessageType.exchange, MessageType.timeout] at hsupervised
  rcases hx with rfl | rfl
  · exact .inl ⟨rfl, hsupervised⟩
  · exact .inr ⟨rfl, hsupervised⟩

/-- A command that is passed on at 5 milliseconds is supervised from then on. -/
theorem supervised_connect :
    ((start 1).handle .duplex (.duplex .connectRx 7) 5 true).2.2 = [.duplex .connectTx 0] ∧
      ∃ slot, ((start 1).handle .duplex (.duplex .connectRx 7) 5 true).1.Supervised slot
        (.duplex .connectTx 0)
        { Pdu.duplex .connectTx 0 with
          messageType := .response .connectRx
          status := .listenerTalkerTimeout
          sequenceId := 7 } 2005 2000 := by
  have hsent : ((start 1).handle .duplex (.duplex .connectRx 7) 5 true).2.2 =
      [.duplex .connectTx 0] := by decide
  obtain ⟨slot, -, ⟨-, hsupervised⟩ | ⟨hx, -⟩⟩ := supervised_of_sent hsent rfl
  · exact ⟨hsent, slot, hsupervised⟩
  · exact absurd hx (by decide)

end AvbEntity.Connection.Relay

import AvbEntity.Proofs.Endpoint.Run
import AvbEntity.Proofs.Model.Build
import Mathlib.Algebra.Order.Group.Multiset

/-!
# No command of a controller is lost

A controller finds the answer to its command by the type and the sequence number of the answer. An
endpoint owes an answer for each command that it accepted. At any moment of any run the answers
that it owes are those that it gave and those of the commands still in flight, each as often as it
is owed: no command is dropped, none is answered twice, and no answer comes from nothing.

## Main definitions

* `Connection.Ticket`: what an answer is found by
* `Connection.promises`, `Connection.replies`: the answers owed for commands, and those given
* `Connection.InFlight.owed`: the answers owed for the commands in flight
* `Endpoint.accepted`: the commands that a run accepts

## Main results

* `Connection.Relay.owed_request`, `Connection.Relay.owed_settle`, `Connection.Relay.owed_tick`:
  each operation of the relay keeps the balance
* `Endpoint.promises_accepted`: every run of a listener keeps it
-/

namespace AvbEntity

namespace Connection

/-- What a controller finds the answer to its command by. -/
abbrev Ticket := MessageType × UInt16

/-- The answers owed for commands. -/
def promises (requests : List Pdu) : Multiset Ticket :=
  (requests.map fun p => (p.messageType.toResponse, p.sequenceId) : List Ticket)

/-- The answers to controllers among the PDUs that were sent. -/
def replies (sent : List Pdu) : Multiset Ticket :=
  ((sent.filter (·.messageType.isReply)).map fun p => (p.messageType, p.sequenceId) : List Ticket)

/-- The answer owed for a command in flight. -/
def Entry.owed (e : Entry) : Ticket :=
  (.response e.command.messageType.exchange.ofController, e.controllerSequenceId)

/-- The answers owed for the commands in flight. -/
def InFlight.owed (t : InFlight) : Multiset Ticket :=
  (t.entries.map Entry.owed : List Ticket)

/-! ## Answers -/

@[simp] theorem replies_nil : replies [] = 0 := rfl

theorem replies_append (xs ys : List Pdu) : replies (xs ++ ys) = replies xs + replies ys := by
  rw [replies, List.filter_append, List.map_append, ← Multiset.coe_add]
  rfl

theorem replies_cons (p : Pdu) (ps : List Pdu) : replies (p :: ps) = replies [p] + replies ps :=
  replies_append [p] ps

theorem replies_of_isReply {p : Pdu} (h : p.messageType.isReply) :
    replies [p] = {(p.messageType, p.sequenceId)} := by
  simp [replies, h]

theorem replies_of_not_isReply {p : Pdu} (h : p.messageType.isReply = false) :
    replies [p] = 0 := by
  simp [replies, h]

/-- Only types and sequence numbers count, which arrive as they are sent. -/
@[simp] theorem replies_received (ps : List Pdu) : replies (ps.map (·.received)) = replies ps := by
  simp [replies, List.filter_map, Function.comp_def]

theorem promises_append (xs ys : List Pdu) : promises (xs ++ ys) = promises xs + promises ys := by
  rw [promises, List.map_append, ← Multiset.coe_add]
  rfl

/-! ## The relay keeps the balance -/

theorem InFlight.owed_of_perm {t t' : InFlight} {e : Entry}
    (h : t'.entries.Perm (e :: t.entries)) : t'.owed = e.owed ::ₘ t.owed := by
  rw [owed, owed, Multiset.cons_coe, Multiset.coe_eq_coe]
  exact h.map Entry.owed

namespace Relay

/-- A command is answered at once, or it is in flight afterwards. -/
theorem owed_request (r : Relay) (m : Model) {p : Pdu} {x : Exchange} (hx : x.IsRelayed)
    (htype : p.messageType = .command x.ofController) (now : Time) (accepted : Bool) :
    promises [p] + r.inFlight.owed =
      replies (r.request m p x now accepted).2 +
        (r.request m p x now accepted).1.inFlight.owed := by
  have hticket : promises [p] = {(.response x.ofController, p.sequenceId)} := by
    rw [promises, List.map_singleton, htype]
    rfl
  have hrespond : ∀ status, replies [p.respond status] = promises [p] := by
    intro status
    have htype' := Pdu.messageType_respond htype status
    rw [replies_of_isReply (htype' ▸ MessageType.isReply_ofController x), htype', hticket]
    rfl
  have hcommand : replies [r.outgoing p x] = 0 := by
    apply replies_of_not_isReply
    rcases hx with rfl | rfl <;> rfl
  have hend := requested r m p x now accepted
  generalize r.request m p x now accepted = result at hend ⊢
  cases hend with
  | unknown hsink => rw [hrespond]
  | refused hsink hrefusal => rw [hrespond]
  | full hsink hrefusal hfull => rw [hrespond]
  | unsent hsink hrefusal hinsert =>
    rw [replies_cons, hcommand, zero_add, hrespond]
  | forwarded hsink hrefusal hinsert =>
    rw [hcommand, zero_add, hticket, Multiset.singleton_add]
    exact (InFlight.owed_of_perm (InFlight.entries_insert_perm hinsert)).symm

/-- The talker's answer turns a command in flight into an answer to the controller. -/
theorem owed_settle (r : Relay) (m : Model) (p : Pdu) (x : Exchange) :
    r.inFlight.owed = replies (r.settle m p x).2.2 + (r.settle m p x).1.inFlight.owed := by
  have hend := settled r m p x
  generalize r.settle m p x = result at hend ⊢
  cases hend with
  | unknown hsink => rw [replies_nil, zero_add]
  | unsolicited hsink htake => rw [replies_nil, zero_add]
  | @answered s e t hsink htake =>
    obtain ⟨hperm, htype, -⟩ := InFlight.entries_take?_perm htake
    have howed : e.owed = (.response x.ofController, e.controllerSequenceId) := by
      rw [Entry.owed, htype]
      rfl
    rw [InFlight.owed_of_perm hperm, replies_of_isReply (MessageType.isReply_ofController x),
      Multiset.singleton_add, howed]
    rfl

/-- What a tick gives up is answered, and what it sends again is still owed. -/
theorem owed_tick {r : Relay} (h : r.HoldsCommands) (now : Time) :
    r.inFlight.owed = replies (r.tick now).2 + (r.tick now).1.inFlight.owed := by
  simp only [InFlight.owed, sent_tick, entries_tick]
  -- the commands tick by themselves, so the balance of each of them is enough
  unfold HoldsCommands at h
  generalize r.inFlight.entries = entries at h ⊢
  induction entries with
  | nil => rfl
  | cons e entries ih =>
    obtain ⟨x, hx, htype⟩ := h e List.mem_cons_self
    have ih := ih fun e he => h e (List.mem_cons_of_mem _ he)
    have hcommand : replies [e.command] = 0 := by
      apply replies_of_not_isReply
      rw [htype]
      rfl
    have hgiveUp : replies [e.giveUp] = {e.owed} :=
      replies_of_isReply (MessageType.isReply_ofController _)
    rw [List.map_cons, ← Multiset.cons_coe, ih]
    have hend := e.ticked now
    simp only [List.filterMap_cons]
    generalize e.tick now = result at hend ⊢
    cases hend with
    | waits hwait => simp only [List.map_cons, ← Multiset.cons_coe, Multiset.add_cons]
    | resent hdue hretried =>
      simp only [List.map_cons, ← Multiset.cons_coe, Multiset.add_cons]
      rw [replies_cons, hcommand, zero_add]
      rfl
    | givenUp hdue hretried =>
      simp only
      rw [replies_cons, hgiveUp, add_assoc, Multiset.singleton_add]

/-- Every PDU keeps the balance. -/
theorem owed_handle (r : Relay) (m : Model) (p : Pdu) (now : Time) (accepted : Bool) :
    promises ([p].filter (·.messageType.isRequest)) + r.inFlight.owed =
      replies (r.handle m p now accepted).2.2 + (r.handle m p now accepted).1.inFlight.owed := by
  have hend := handled r m p now accepted
  generalize r.handle m p now accepted = result at hend ⊢
  cases hend with
  | @request x hx htype =>
    have hrequest : p.messageType.isRequest = true := by
      rw [htype]
      cases x <;> rfl
    rw [List.filter_singleton, hrequest, cond_true]
    exact owed_request r m hx htype now accepted
  | settle hx htype =>
    rw [List.filter_singleton, htype]
    exact (Multiset.zero_add _).trans (owed_settle ..)
  | describe htype =>
    have hreply : (describe m p).messageType.isReply = false := by
      unfold describe
      split <;> simp [Pdu.respond, htype, MessageType.toResponse, MessageType.exchange,
        MessageType.isReply]
    rw [List.filter_singleton, htype, replies_of_not_isReply hreply]
    rfl
  | ignored htype =>
    have hrequest : p.messageType.isRequest = false := by
      by_contra hrequest
      rw [MessageType.isForListener_of_isRequest (by simpa using hrequest)] at htype
      exact absurd htype.symm Bool.false_ne_true
    rw [List.filter_singleton, hrequest]
    rfl

end Relay

/-- The command of a controller that names an entity as the listener. -/
def Pdu.isRequestTo (entityId : Eui64) (p : Pdu) : Bool :=
  p.messageType.isRequest && p.listenerEntityId == entityId

/-- What the talker answers is no answer to a controller that asked the listener. -/
theorem replies_respond (m : Model) {p : Pdu} (h : p.messageType.isForTalker) :
    replies (Talker.respond m p).2 = 0 := by
  have hresponse := MessageType.isReply_toResponse h
  have hend := Talker.responded m h
  generalize Talker.respond m p = result at hend ⊢
  cases hend with
  | unknown hsource => exact replies_of_not_isReply hresponse
  | answered hsource hact =>
    apply replies_of_not_isReply
    rw [Talker.messageType_of_act hact, hresponse]

theorem Manager.inFlight.owed_handle {c : Manager} (hrole : c.role.isListener) (m : Model) (p : Pdu)
    (now : Time) (accepted : Bool) :
    promises ([p].filter (·.isRequestTo m.entityId)) + c.relay.inFlight.owed =
      replies (c.handle m p now accepted).2.2 +
        (c.handle m p now accepted).1.relay.inFlight.owed := by
  have hend := handled c m p now accepted
  generalize c.handle m p now accepted = result at hend ⊢
  cases hend with
  | talker htype hrole hnamed =>
    have hrequest : p.isRequestTo m.entityId = false := by
      rw [Pdu.isRequestTo, Bool.and_eq_false_iff]
      refine .inl ?_
      by_contra hrequest
      have hlistener := MessageType.isForListener_of_isRequest (by simpa using hrequest)
      rw [isForListener_eq_false htype] at hlistener
      exact absurd hlistener Bool.false_ne_true
    rw [List.filter_singleton, hrequest, replies_respond m htype]
    rfl
  | listener htype hrole hnamed =>
    have hrequest : p.isRequestTo m.entityId = p.messageType.isRequest := by
      simp [Pdu.isRequestTo, hnamed]
    have hrelay := Relay.owed_handle c.relay m p now accepted
    rw [List.filter_singleton] at hrelay ⊢
    rwa [hrequest]
  | ignored htype =>
    have hrequest : p.isRequestTo m.entityId = false := by
      rw [Pdu.isRequestTo, Bool.and_eq_false_iff, beq_eq_false_iff_ne]
      by_cases hrequest : p.messageType.isRequest = true
      · exact .inr (htype (MessageType.isForListener_of_isRequest hrequest) hrole)
      · exact .inl (by simpa using hrequest)
    rw [List.filter_singleton, hrequest]
    rfl

end Connection

namespace Endpoint

open Connection (Manager Pdu promises replies)

/-- The commands of controllers that a run accepts: those to connect or to disconnect a stream
input, heard while connection management is running, that name the entity as the listener. -/
def accepted (e : Endpoint) : List Step → List Pdu
  | [] => []
  | s :: steps =>
    (e.heard s).toList.filter (·.isRequestTo e.model.entityId) ++ (e.step s).1.accepted steps

/-- Every step of a listener keeps the balance. -/
theorem owed_step {e : Endpoint} (hrole : e.connections.role.isListener)
    (hholds : e.connections.relay.HoldsCommands) (s : Step) :
    promises ((e.heard s).toList.filter (·.isRequestTo e.model.entityId)) +
        e.connections.relay.inFlight.owed =
      replies (connectionPdus (e.step s).2) + (e.step s).1.connections.relay.inFlight.owed := by
  have hstep := connectionStep e s
  generalize (e.step s).1.connections = c, (e.step s).1.model = m,
    connectionPdus (e.step s).2 = sent at hstep ⊢
  cases hstep with
  | @heard frame now accepted p hcontrol hstarted hdecode =>
    have hheard : e.heard (.receive frame now accepted) = some p :=
      heard_eq_some.mpr ⟨frame, now, accepted, rfl, hcontrol, hstarted, hdecode⟩
    rw [hheard, Connection.replies_received]
    exact Connection.Manager.inFlight.owed_handle hrole ..
  | ticked hstarted =>
    rw [Connection.replies_received, Manager.tick, if_pos hrole]
    exact (Multiset.zero_add _).trans (Connection.Relay.owed_tick hholds _)
  | published => rfl
  | quiet hheard =>
    rw [hheard]
    rfl

theorem owed_after {e : Endpoint} (hrole : e.connections.role.isListener)
    (hholds : e.connections.relay.HoldsCommands) (steps : List Step) :
    promises (e.accepted steps) + e.connections.relay.inFlight.owed =
      replies (connectionPdus (e.sends steps)) +
        (e.after steps).connections.relay.inFlight.owed := by
  induction steps generalizing e with
  | nil => rfl
  | cons s steps ih =>
    have hrole' : (e.step s).1.connections.role.isListener := by rwa [role_step]
    have ih := ih hrole' (holdsCommands_step hholds s)
    have hstep := owed_step hrole hholds s
    calc promises (e.accepted (s :: steps)) + e.connections.relay.inFlight.owed
      _ = promises ((e.step s).1.accepted steps) +
            (promises ((e.heard s).toList.filter (·.isRequestTo e.model.entityId)) +
              e.connections.relay.inFlight.owed) := by
          rw [accepted, Connection.promises_append, add_left_comm, add_assoc]
      _ = replies (connectionPdus (e.step s).2) +
            (promises ((e.step s).1.accepted steps) +
              (e.step s).1.connections.relay.inFlight.owed) := by
          rw [hstep, add_left_comm]
      _ = replies (connectionPdus (e.sends (s :: steps))) +
            (e.after (s :: steps)).connections.relay.inFlight.owed := by
          rw [ih, sends, connectionPdus_append, Connection.replies_append, add_assoc]
          rfl

/-- **Conservation of controller commands**: after any run of a listener from its start, the
answers owed for the accepted commands are those that were given and those of the commands still in
flight. -/
theorem promises_accepted (model : Model) {role : Role} (hrole : role.isListener)
    (options : Options) (linkUp : Bool) (steps : List Step) :
    promises ((start model role options linkUp).accepted steps) =
      replies (connectionPdus ((start model role options linkUp).sends steps)) +
        ((start model role options linkUp).after steps).connections.relay.inFlight.owed := by
  have howed : (start model role options linkUp).connections.relay.inFlight.owed = 0 := by
    rw [Connection.InFlight.owed]
    simp [start, Manager.start, Connection.Relay.start, Connection.InFlight.entries_empty]
  have hrun := owed_after (e := start model role options linkUp) hrole
    (Connection.Relay.holdsCommands_start _) steps
  rwa [howed, add_zero] at hrun

/-- Two controllers that ask for the same stream input. -/
def rivals : List Step :=
  [.setAcmpStarted true,
    .receive ((multicast (.duplex .connectRx 7)).frame .duplex) 0 true,
    .receive ((multicast (.duplex .connectRx 8)).frame .duplex) 0 true]

/-- With one slot, the first command is in flight and the second is answered. -/
theorem promises_accepted_rivals :
    Role.both.isListener = true ∧
      promises ((start .duplex .both { inFlightCapacity := 1 } true).accepted rivals) =
        {(.response .connectRx, 8)} + {(.response .connectRx, 7)} := by
  refine ⟨rfl, ?_⟩
  have hreplies : replies (connectionPdus
      ((start .duplex .both { inFlightCapacity := 1 } true).sends rivals)) =
        {(.response .connectRx, 8)} := by decide +kernel
  have howed : ((start .duplex .both { inFlightCapacity := 1 } true).after
      rivals).connections.relay.inFlight.owed = {(.response .connectRx, 7)} := by decide +kernel
  rw [promises_accepted .duplex rfl, hreplies, howed]

end Endpoint

end AvbEntity

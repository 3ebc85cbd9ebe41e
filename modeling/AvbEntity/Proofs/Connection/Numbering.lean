import AvbEntity.Proofs.Connection.Origin

/-!
# The sequence numbers of commands in flight

The commands that the relay passes on are numbered one after another, in 16 bits, without a look at
what is still in flight. As long as no command stays in its slot while 65536 later ones are passed
on, all commands in flight have different numbers, and a talker's answer finds the command that it
is for. A command that stays longer shares its number with a later one.

## Main definitions

* `InFlight.Distinguishable`: no two commands in flight have one type and one sequence number
* `Relay.Prompt`: no command stays in its slot while 65536 others are passed on

## Main results

* `Relay.sequenceId_ne`: commands of different slots have different numbers
* `Relay.distinguishable_of_prompt`: an answer selects one command at most
* `Relay.not_distinguishable_of_wrapped`: not so after 65536 commands
-/

namespace AvbEntity.Connection

/-- No two commands in flight have one type and one sequence number. -/
def InFlight.Distinguishable (t : InFlight) : Prop :=
  ∀ i j e e', t.get? i = some e → t.get? j = some e' →
    e.command.messageType = e'.command.messageType →
      e.command.sequenceId = e'.command.sequenceId → i = j

/-- Where commands can be told apart, an answer takes the one that it is for, whatever its slot. -/
theorem InFlight.Distinguishable.take?_eq {t : InFlight} (h : t.Distinguishable) {slot : Nat}
    {e : Entry} (hget : t.get? slot = some e) {messageType : MessageType} {sequenceId : UInt16}
    (hmatch : e.isFor messageType sequenceId) :
    t.take? messageType sequenceId = some (e, t.remove slot) := by
  refine take?_eq_some.mpr ⟨slot, ⟨hget, hmatch, fun i hi e' hget' => ?_⟩, rfl⟩
  by_contra hmatch'
  obtain ⟨htype, hnumber⟩ := Entry.isFor_iff.mp hmatch
  obtain ⟨htype', hnumber'⟩ := Entry.isFor_iff.mp (Bool.of_not_eq_false hmatch')
  exact Nat.ne_of_lt hi
    (h i slot e' e hget' hget (htype'.trans htype.symm) (hnumber'.trans hnumber.symm))

theorem InFlight.IsFirstFree.unique {t : InFlight} {i j : Nat} (hi : t.IsFirstFree i)
    (hj : t.IsFirstFree j) : i = j := by
  have hle : ∀ {i j : Nat}, t.IsFirstFree i → t.IsFirstFree j → i ≤ j := by
    intro i j hi hj
    by_contra hlt
    have hoccupied := hi.occupied j (Nat.lt_of_not_le hlt)
    rw [hj.get?_eq_none] at hoccupied
    exact Bool.false_ne_true hoccupied
  exact Nat.le_antisymm (hle hi hj) (hle hj hi)

namespace Relay

/-- No command stays in its slot while 65536 others are passed on. -/
def Prompt (r : Relay) (run : List Event) : Prop :=
  ∀ xs ys slot, run = xs ++ ys → (r.after xs).Occupied slot ys →
    ((r.after xs).passed ys).length < 65536

/-- A run of fewer than 65536 events passes on too few commands to come round. -/
theorem prompt_of_length_lt (r : Relay) {run : List Event} (h : run.length < 65536) :
    r.Prompt run := by
  rintro xs ys slot rfl -
  have := (r.after xs).length_passed_le ys
  rw [List.length_append] at h
  omega

/-- Adding fewer than 65536 to a number gives another number. -/
theorem add_ofNat_ne (n : UInt16) {k : Nat} (hpos : 0 < k) (hlt : k < 65536) :
    n + .ofNat k ≠ n := by
  intro h
  have hnat := congrArg UInt16.toNat h
  rw [UInt16.toNat_add, UInt16.toNat_ofNat'] at hnat
  have := n.toNat_lt
  omega

section

variable {r : Relay} {i j : Nat} {e e' : Entry} {o o' : Origin}

/-- Of two commands in flight, the one that was passed on later has another number. -/
theorem sequenceId_ne_of_length_lt (hprompt : r.Prompt o.run) (hrun : o'.run = o.run)
    (h : o.Explains r i e) (h' : o'.Explains r j e')
    (hlt : o.before.length < o'.before.length) :
    e'.command.sequenceId ≠ e.command.sequenceId := by
  obtain ⟨zs, hbefore, hsince⟩ : ∃ zs, o'.before = (o.before ++ [o.event]) ++ zs ∧
      o.since = zs ++ o'.event :: o'.since := by
    have hsplit : o'.before ++ (o'.event :: o'.since) =
        (o.before ++ [o.event]) ++ o.since := by
      simpa [Origin.run] using hrun
    rcases List.append_eq_append_iff.mp hsplit with ⟨zs, hleft, hright⟩ | ⟨zs, hleft, hright⟩
    · -- the second event is in the rest of the run, or else it is no later than the first
      have hlength := congrArg List.length hleft
      simp only [List.length_append, List.length_singleton] at hlength
      obtain rfl : zs = [] := List.length_eq_zero_iff.mp (by omega)
      exact ⟨[], by simpa using hleft.symm, by simpa using hright.symm⟩
    · exact ⟨zs, hleft, hright⟩
  have hcommand : e.command.sequenceId = (r.after o.before).nextSequenceId := by
    rw [h.command]
    rfl
  have hnumber : e'.command.sequenceId = e.command.sequenceId +
      .ofNat (((r.after (o.before ++ [o.event])).passed zs).length + 1) := by
    rw [h'.command, hcommand]
    show (r.after o'.before).nextSequenceId = _
    rw [hbefore, after_append, nextSequenceId_after, after_concat, nextSequenceId_step, h.passes,
      List.length_singleton, UInt16.add_assoc, ← UInt16.ofNat_add, Nat.add_comm 1]
  -- what was passed on while the first command was in its slot is what lies between the two
  have hfew := hprompt (o.before ++ [o.event]) o.since i (by simp [Origin.run]) h.stays
  rw [hsince, passed_append, List.length_append, passed, ← after_append, ← hbefore, h'.passes,
    List.length_append, List.length_singleton] at hfew
  rw [hnumber]
  exact add_ofNat_ne _ (Nat.succ_pos _) (by omega)

/-- Commands of different slots have different numbers. -/
theorem sequenceId_ne (hprompt : r.Prompt o.run) (hrun : o'.run = o.run)
    (h : o.Explains r i e) (h' : o'.Explains r j e') (hij : i ≠ j) :
    e'.command.sequenceId ≠ e.command.sequenceId := by
  rcases Nat.lt_trichotomy o.before.length o'.before.length with hlt | heq | hgt
  · exact sequenceId_ne_of_length_lt hprompt hrun h h' hlt
  · -- one event fills one slot
    obtain ⟨hbefore, -⟩ := List.append_inj hrun heq.symm
    exact absurd (h.free.unique (hbefore ▸ h'.free)) hij
  · exact (sequenceId_ne_of_length_lt (hrun ▸ hprompt) hrun.symm h' h hgt).symm

end

/-- **Commands in flight can be told apart**: after every run of the relay from its start in which
no command stays in its slot while 65536 others are passed on, an answer selects one command at
most, whatever the number of slots. -/
theorem distinguishable_of_prompt {capacity : Nat} {run : List Event}
    (hprompt : (start capacity).Prompt run) :
    ((start capacity).after run).inFlight.Distinguishable ∧
      ∀ slot e messageType sequenceId,
        ((start capacity).after run).inFlight.get? slot = some e →
          e.isFor messageType sequenceId →
            ((start capacity).after run).inFlight.take? messageType sequenceId =
              some (e, ((start capacity).after run).inFlight.remove slot) := by
  have hdistinguishable : ((start capacity).after run).inFlight.Distinguishable := by
    intro i j e e' hi hj _ hnumber
    obtain ⟨o, rfl, ho⟩ := exists_origin (get?_start capacity) hi
    obtain ⟨o', hrun, ho'⟩ := exists_origin (get?_start capacity) hj
    by_contra hij
    exact sequenceId_ne hprompt hrun ho ho' hij hnumber.symm
  exact ⟨hdistinguishable, fun slot e messageType sequenceId hget hmatch =>
    hdistinguishable.take?_eq hget hmatch⟩

/-! ## A command that stays too long -/

/-- A controller's command to connect, which the network accepts or not when it is passed on. -/
def connect (accepted : Bool) : Event :=
  .pdu .duplex (.duplex .connectRx 7) 0 accepted

/-- Two commands in flight together, and the answer to the second one. -/
theorem distinguishable_connects :
    (start 2).Prompt [connect true, connect true] ∧
      ((start 2).after [connect true, connect true]).inFlight.Distinguishable ∧
      ((start 2).after [connect true, connect true]).inFlight.take? (.command .connectTx) 1 =
        some ({ command := .duplex .connectTx 1, controllerSequenceId := 7, deadline := 2000 },
          ((start 2).after [connect true]).inFlight) := by
  have hprompt : (start 2).Prompt [connect true, connect true] :=
    prompt_of_length_lt _ (by decide)
  obtain ⟨hdistinguishable, htake⟩ := distinguishable_of_prompt hprompt
  exact ⟨hprompt, hdistinguishable, htake 1 _ _ _ (by decide) (by decide)⟩

/-- A command that the network does not accept leaves nothing but a used number. -/
theorem request_unsent {r : Relay} {m : Model} {p : Pdu} {x : Exchange} {now : Time} {s : Sink}
    (hsink : m.sink? m.current p.listenerUniqueId = some s) (hrefusal : refusal s p x = none)
    (hfree : r.inFlight.isFull = false) :
    (r.request m p x now false).1 = { r with nextSequenceId := r.nextSequenceId + 1 } := by
  have hend := requested r m p x now false
  generalize r.request m p x now false = result at hend ⊢
  cases hend with
  | unknown hsink' => exact absurd (hsink.symm.trans hsink') (Option.some_ne_none s)
  | refused hsink' hrefusal' =>
    obtain rfl := Option.some.inj (hsink.symm.trans hsink')
    exact absurd (hrefusal'.symm.trans hrefusal) (Option.some_ne_none _)
  | full hsink' hrefusal' hfull => exact absurd (hfull.symm.trans hfree) Bool.noConfusion
  | unsent hsink' hrefusal' hinsert => rfl

/-- So many commands that the network does not accept use up so many numbers. -/
theorem after_replicate_unsent {r : Relay} (hfree : r.inFlight.isFull = false) (n : Nat) :
    r.after (List.replicate n (connect false)) =
      { r with nextSequenceId := r.nextSequenceId + .ofNat n } := by
  induction n generalizing r with
  | zero =>
    exact (congrArg (fun k => { r with nextSequenceId := k }) (UInt16.add_zero _)).symm
  | succ n ih =>
    have hsink : Model.duplex.sink? Model.duplex.current
        (Pdu.duplex .connectRx 7).listenerUniqueId = some (.fresh 0) := by decide
    have hstep : (r.step (connect false)).1 = { r with nextSequenceId := r.nextSequenceId + 1 } :=
      request_unsent (x := .connectTx) hsink (by decide) hfree
    have hrest := ih (r := { r with nextSequenceId := r.nextSequenceId + 1 }) hfree
    rw [List.replicate_succ, after_cons, hstep, hrest, Nat.add_comm n, UInt16.ofNat_add,
      ← UInt16.add_assoc]
    rfl

/-- A command in flight, 65535 more that the network does not accept, and one that it accepts. -/
def wrapped : List Event :=
  connect true :: (List.replicate 65535 (connect false) ++ [connect true])

/-- The last command goes out under the number of the first one, which is still in flight. -/
theorem not_distinguishable_of_wrapped :
    ¬ ((start 2).after wrapped).inFlight.Distinguishable := by
  have hrun : (start 2).after wrapped =
      { inFlight := ⟨List.replicate 2 (some { command := .duplex .connectTx 0,
                                              controllerSequenceId := 7, deadline := 2000 })⟩
        nextSequenceId := 1 } := by
    rw [wrapped, after_cons, after_append, after_replicate_unsent (by decide)]
    decide
  rw [hrun]
  intro h
  exact absurd (h 0 1 _ _ rfl rfl rfl rfl) (by decide)

end Relay

end AvbEntity.Connection

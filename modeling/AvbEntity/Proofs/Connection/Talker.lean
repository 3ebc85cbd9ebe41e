import AvbEntity.Proofs.Connection.Manager

/-!
# The talker and its listeners

A stream output is a list of listeners: connecting adds one at the end, also one that is in the list
already, and disconnecting takes the first of its connections away. The counter beside the list
always has its length. So a stream output that has as many listeners as the counter can count
turns a connection down, and all answers can be told from the list alone.

## Main definitions

* `Source.Counts`: the counter has the length of the list
* `Talker.follow`, `Talker.verdict`: the list after a command, and the status of the answer
* `Talker.IsAnswer`: the answer to a command, told from the list

## Main results

* `Talker.followed`: every command is carried out on the list, and answered from it
* `Talker.sources_respond`: no other stream changes
-/

namespace AvbEntity

namespace Source

variable {s s' : Source} {l : Listener}

/-- The most listeners that the counter of a stream output can count. -/
def maxListeners : Nat :=
  65535

/-- The counter of a stream output has the number of its listeners. -/
def Counts (s : Source) : Prop :=
  s.connectionCount.toNat = s.listeners.length

theorem counts_fresh (uniqueId : UInt16) : (fresh uniqueId).Counts := rfl

/-- Another identity leaves the connections. -/
theorem Counts.publish (h : s.Counts) (streamId : Eui64) (streamDestMac : Mac)
    (streamVlanId : UInt16) : (s.publish streamId streamDestMac streamVlanId).Counts := h

theorem Counts.connect (h : s.Counts) (hconnect : s.connect l = some s') : s'.Counts := by
  rw [Source.connect, Option.ite_none_right_eq_some] at hconnect
  obtain ⟨hroom, hs'⟩ := hconnect
  obtain rfl := Option.some.inj hs'
  -- the counter does not come round, as it is below its greatest value
  show (s.connectionCount + 1).toNat = (s.listeners ++ [l]).length
  rw [UInt16.toNat_add, UInt16.toNat_one, Nat.mod_eq_of_lt hroom, List.length_append,
    List.length_singleton, h]

theorem Counts.disconnect (h : s.Counts) (hdisconnect : s.disconnect l = some s') : s'.Counts := by
  rw [Source.disconnect, Option.ite_none_right_eq_some] at hdisconnect
  obtain ⟨hmem, hs'⟩ := hdisconnect
  obtain rfl := Option.some.inj hs'
  have hcount := s.connectionCount.toNat_lt
  show (UInt16.ofNat (s.connectionCount.toNat - 1)).toNat = (s.listeners.erase l).length
  rw [UInt16.toNat_ofNat', Nat.mod_eq_of_lt (by omega),
    List.length_erase_of_mem (List.contains_iff_mem.mp hmem), h]

/-- There is room for a connection as long as the counter can grow. -/
theorem Counts.isSome_connect (h : s.Counts) :
    (s.connect l).isSome = decide (s.listeners.length < maxListeners) := by
  have hroom : s.connectionCount.toNat + 1 < UInt16.size ↔ s.listeners.length < maxListeners := by
    rw [← h]
    exact Nat.succ_lt_succ_iff
  rw [Source.connect]
  split
  next hlt => exact (decide_eq_true (hroom.mp hlt)).symm
  next hlt => exact (decide_eq_false (mt hroom.mpr hlt)).symm

end Source

namespace Connection.Talker

/-- A stream output that accepts a connection has the listener once more. -/
theorem listeners_of_connect {s s' : Source} {l : Listener} (h : s.connect l = some s') :
    s'.listeners = s.listeners ++ [l] := by
  rw [Source.connect, Option.ite_none_right_eq_some] at h
  rw [← Option.some.inj h.2]

theorem listeners_disconnect (s : Source) (l : Listener) :
    ((s.disconnect l).getD s).listeners = s.listeners.erase l := by
  unfold Source.disconnect
  split
  · rfl
  next h =>
    rw [Option.getD_none]
    exact (List.erase_of_not_mem (by simpa using h)).symm

/-! ## The list of listeners -/

/-- The listeners of a stream output after a command on it. -/
def follow (ls : List Listener) (p : Pdu) : List Listener :=
  match p.messageType with
  | .command .connectTx => if ls.length < Source.maxListeners then ls ++ [listener p] else ls
  | .command .disconnectTx => ls.erase (listener p)
  | _ => ls

/-- The status of the answer to a command on a stream output with these listeners. -/
def verdict (ls : List Listener) (p : Pdu) : Status :=
  match p.messageType with
  | .command .connectTx => if ls.length < Source.maxListeners then .success else .talkerMisbehaving
  | .command .getTxConnection =>
    if p.connectionCount.toNat < ls.length then .success else .noSuchConnection
  | _ => .success

/-- The answer to a command on a stream output that had the listeners `ls` before it. -/
structure IsAnswer (ls : List Listener) (p answer : Pdu) : Prop where
  messageType : answer.messageType = p.messageType.toResponse
  sequenceId : answer.sequenceId = p.sequenceId
  status : answer.status = verdict ls p
  /-- Whatever was asked for, the answer says how many listeners there are now; only the question
  for one connection that does not exist is repeated as it is. -/
  count : answer.status ≠ .noSuchConnection →
    answer.connectionCount.toNat = (follow ls p).length
  /-- The question for one connection is answered with its listener. -/
  connection : p.messageType = .command .getTxConnection →
    ∀ hi : p.connectionCount.toNat < ls.length, listener answer = ls[p.connectionCount.toNat]

/-- A stream output after a command, and the answer. -/
structure Followed (s : Source) (p : Pdu) (s' : Source) (answer : Pdu) : Prop where
  listeners : s'.listeners = follow s.listeners p
  counts : s'.Counts
  isAnswer : IsAnswer s.listeners p answer

section

variable {s : Source} {p : Pdu} (h : s.Counts)
include h

theorem followed_connect (htype : p.messageType = .command .connectTx) :
    Followed s p (connect s p).1 (connect s p).2 := by
  have hget : p.messageType ≠ .command .getTxConnection := htype ▸ by decide
  have hroom := h.isSome_connect (l := listener p)
  cases hconnect : s.connect (listener p) with
  | none =>
    rw [hconnect, Option.isSome_none, eq_comm, decide_eq_false_iff_not] at hroom
    have hfollow : follow s.listeners p = s.listeners := by
      simp only [follow, htype, if_neg hroom]
    have hverdict : verdict s.listeners p = .talkerMisbehaving := by
      simp only [verdict, htype, if_neg hroom]
    simp only [connect, hconnect]
    refine ⟨hfollow.symm, h, rfl, rfl, hverdict.symm, fun _ => ?_, fun htype => absurd htype hget⟩
    rw [hfollow]
    exact h
  | some s' =>
    rw [hconnect, Option.isSome_some, eq_comm, decide_eq_true_iff] at hroom
    have hfollow : follow s.listeners p = s.listeners ++ [listener p] := by
      simp only [follow, htype, if_pos hroom]
    have hverdict : verdict s.listeners p = .success := by
      simp only [verdict, htype, if_pos hroom]
    have hlisteners := listeners_of_connect hconnect
    have hcounts := h.connect hconnect
    simp only [connect, hconnect]
    refine ⟨hlisteners.trans hfollow.symm, hcounts, rfl, rfl, hverdict.symm, fun _ => ?_,
      fun htype => absurd htype hget⟩
    rw [hfollow, ← hlisteners]
    exact hcounts

theorem followed_disconnect (htype : p.messageType = .command .disconnectTx) :
    Followed s p (disconnect s p).1 (disconnect s p).2 := by
  have hfollow : follow s.listeners p = s.listeners.erase (listener p) := by
    simp only [follow, htype]
  have hverdict : verdict s.listeners p = .success := by
    simp only [verdict, htype]
  have hcounts : ((s.disconnect (listener p)).getD s).Counts := by
    cases hdisconnect : s.disconnect (listener p) with
    | none => exact h
    | some s' => exact h.disconnect hdisconnect
  refine ⟨(listeners_disconnect s _).trans hfollow.symm, hcounts, rfl, rfl, hverdict.symm,
    fun _ => ?_, fun hget => ?_⟩
  · rw [hfollow, ← listeners_disconnect]
    exact hcounts
  · exact absurd hget (htype ▸ by decide)

theorem followed_state (htype : p.messageType = .command .getTxState) :
    Followed s p s (describe (p.respond .success) s) := by
  have hfollow : follow s.listeners p = s.listeners := by
    simp only [follow, htype]
  have hverdict : verdict s.listeners p = .success := by
    simp only [verdict, htype]
  refine ⟨hfollow.symm, h, rfl, rfl, hverdict.symm, fun _ => ?_, fun hget => ?_⟩
  · rw [hfollow]
    exact h
  · exact absurd hget (htype ▸ by decide)

theorem followed_connection (htype : p.messageType = .command .getTxConnection) :
    Followed s p s (connection s p) := by
  have hfollow : follow s.listeners p = s.listeners := by
    simp only [follow, htype]
  by_cases hi : p.connectionCount.toNat < s.listeners.length
  · have hverdict : verdict s.listeners p = .success := by
      simp only [verdict, htype, if_pos hi]
    have hsome : s.connection? p.connectionCount =
        some s.listeners[p.connectionCount.toNat] := List.getElem?_eq_getElem hi
    simp only [connection, hsome]
    refine ⟨hfollow.symm, h, rfl, rfl, hverdict.symm, fun _ => ?_, fun _ _ => rfl⟩
    rw [hfollow]
    exact h
  · have hverdict : verdict s.listeners p = .noSuchConnection := by
      simp only [verdict, htype, if_neg hi]
    have hnone : s.connection? p.connectionCount = none :=
      List.getElem?_eq_none (Nat.le_of_not_lt hi)
    simp only [connection, hnone]
    exact ⟨hfollow.symm, h, rfl, rfl, hverdict.symm, fun hstatus => absurd rfl hstatus,
      fun _ hlt => absurd hlt hi⟩

/-- Every command is carried out on the list of listeners, and answered from it. -/
theorem followed {s' : Source} {answer : Pdu} (hact : act s p = some (s', answer)) :
    Followed s p s' answer := by
  unfold act at hact
  split at hact
  next htype =>
    obtain ⟨rfl, rfl⟩ := Prod.mk.inj (Option.some.inj hact)
    exact followed_connect h htype
  next htype =>
    obtain ⟨rfl, rfl⟩ := Prod.mk.inj (Option.some.inj hact)
    exact followed_disconnect h htype
  next htype =>
    obtain ⟨rfl, rfl⟩ := Prod.mk.inj (Option.some.inj hact)
    exact followed_state h htype
  next htype =>
    obtain ⟨rfl, rfl⟩ := Prod.mk.inj (Option.some.inj hact)
    exact followed_connection h htype
  next => exact absurd hact (Option.some_ne_none _).symm

end

/-- A command changes no other stream than the stream output that it names. -/
theorem sources_respond (m : Model) {p : Pdu} (hp : p.messageType.isForTalker) {c u : UInt16}
    (hne : ¬ (c = m.current ∧ u = p.talkerUniqueId)) :
    (respond m p).1.source? c u = m.source? c u := by
  have hend := responded m hp
  generalize respond m p = result at hend ⊢
  cases hend with
  | unknown hsource => rfl
  | answered hsource hact =>
    rw [Model.source?_modifySource, if_neg]
    rintro ⟨rfl, rfl⟩
    exact hne ⟨rfl, rfl⟩

/-- The statuses of the talker have five bits. -/
theorem IsAnswer.status_lt {ls : List Listener} {p answer : Pdu} (h : IsAnswer ls p answer) :
    answer.status.code.toNat < 32 := by
  rw [h.status]
  unfold verdict
  split
  · split <;> decide
  · split <;> decide
  · decide

end Connection.Talker

end AvbEntity

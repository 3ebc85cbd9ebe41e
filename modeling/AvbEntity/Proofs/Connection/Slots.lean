import AvbEntity.Proofs.Connection.InFlight

/-!
# The slots as a bounded store

Commands are stored in slots and taken out again, in any order and for as long as one likes. There
are never more of them than slots. Each goes to the first free slot, and stays there as it is until
it is given out by a removal or as the first match of an answer. So nothing is lost and nothing is
stored twice: what was stored is what was given out and what is still there.

## Main definitions

* `InFlight.Request`, `InFlight.Answer`, `InFlight.ask`: what is asked of the slots, and answered
* `InFlight.after`, `InFlight.stored`, `InFlight.given`: the slots after a run of requests, the
  commands stored in it, and the commands given out
* `InFlight.Asked`: how a request can end
* `InFlight.IsStore`: the slots hold what was stored and not given out, each command in its slot

## Main results

* `InFlight.asked`: requests end in these ways
* `InFlight.given_append_perm`: what was stored was given out or is still there
* `InFlight.leaves_of_get?`: a command is in its slot until it is given out
* `InFlight.isStore_after`: all this holds after every run from free slots
-/

namespace AvbEntity.Connection.InFlight

/-! ## Requests -/

/-- What is asked of the slots. The last three only look at them. -/
inductive Request where
  | insert (e : Entry)
  | remove (slot : Nat)
  | take (messageType : MessageType) (sequenceId : UInt16)
  | get (slot : Nat)
  | expired (now : Time)
  | counts
  deriving DecidableEq

/-- What is answered. -/
inductive Answer where
  /-- A command was stored in the slot. -/
  | stored (slot : Nat)
  /-- A command was not stored, and is handed back. -/
  | refused (e : Entry)
  /-- The command of a slot, if there is one. -/
  | entry (e? : Option Entry)
  | slots (slots : List Nat)
  | counts (capacity size : Nat) (isEmpty isFull : Bool)
  deriving DecidableEq

/-- The slots after a request, and the answer to it. -/
def ask (t : InFlight) : Request → InFlight × Answer
  | .insert e =>
    match t.insert e with
    | some (t, slot) => (t, .stored slot)
    | none => (t, .refused e)
  | .remove slot => (t.remove slot, .entry (t.get? slot))
  | .take messageType sequenceId =>
    match t.take? messageType sequenceId with
    | some (e, t) => (t, .entry e)
    | none => (t, .entry none)
  | .get slot => (t, .entry (t.get? slot))
  | .expired now => (t, .slots (t.expired now))
  | .counts => (t, .counts t.capacity t.size t.isEmpty t.isFull)

/-- The command that a request adds to the slots, by its answer. -/
def Request.gain : Request → Answer → List Entry
  | .insert e, .stored _ => [e]
  | _, _ => []

/-- The command that a request gives out for good, by its answer. -/
def Request.loss : Request → Answer → List Entry
  | .remove _, .entry e? | .take _ _, .entry e? => e?.toList
  | _, _ => []

/-- The slots after a run of requests. -/
def after (t : InFlight) (run : List Request) : InFlight :=
  run.foldl (fun t q => (t.ask q).1) t

/-- The commands that a run stores. -/
def stored (t : InFlight) : List Request → List Entry
  | [] => []
  | q :: run => q.gain (t.ask q).2 ++ (t.ask q).1.stored run

/-- The commands that a run gives out. -/
def given (t : InFlight) : List Request → List Entry
  | [] => []
  | q :: run => q.loss (t.ask q).2 ++ (t.ask q).1.given run

theorem after_cons (t : InFlight) (q : Request) (run : List Request) :
    t.after (q :: run) = (t.ask q).1.after run :=
  rfl

theorem after_append (t : InFlight) (xs ys : List Request) :
    t.after (xs ++ ys) = (t.after xs).after ys :=
  List.foldl_append

/-! ## How a request ends -/

theorem size_eq_length (t : InFlight) : t.size = t.entries.length := by
  rw [size, entries, List.length_filterMap_eq_countP]
  rfl

theorem size_le_capacity (t : InFlight) : t.size ≤ t.capacity :=
  List.countP_le_length

theorem isFull_eq_false (t : InFlight) : t.isFull = false ↔ t.size < t.capacity := by
  have hfull : t.isFull = true ↔ t.size = t.capacity := by
    rw [isFull, List.all_eq_true, size, capacity, List.countP_eq_length]
  rw [← Bool.not_eq_true, hfull]
  exact ⟨Nat.lt_of_le_of_ne t.size_le_capacity, Nat.ne_of_lt⟩

/-- A slot that is free, or not there at all, can be freed. -/
theorem remove_eq_self {t : InFlight} {slot : Nat} (h : t.get? slot = none) :
    t.remove slot = t := by
  have hset : t.slots.set slot none = t.slots := by
    refine List.ext_getElem? fun i => ?_
    rw [List.getElem?_set]
    split
    next hi =>
      subst hi
      rw [get?, Option.join_eq_none_iff] at h
      rcases h with h | h
      · rw [h, if_neg (Nat.not_lt.mpr (List.getElem?_eq_none_iff.mp h))]
      · rw [h, if_pos (List.getElem?_eq_some_iff.mp h).1]
    next => rfl
  rw [remove, hset]

/-- How a request ends, with the slots as they are then. -/
inductive Asked (t : InFlight) : Request → InFlight × Answer → Prop
  | stored {e : Entry} {slot : Nat} (hroom : t.size < t.capacity) (hfirst : t.IsFirstFree slot) :
    Asked t (.insert e) (⟨t.slots.set slot (some e)⟩, .stored slot)
  | refused {e : Entry} (hfull : t.size = t.capacity) : Asked t (.insert e) (t, .refused e)
  | removed {slot : Nat} {e : Entry} (hget : t.get? slot = some e) :
    Asked t (.remove slot) (⟨t.slots.set slot none⟩, .entry (some e))
  | vacant {slot : Nat} (hget : t.get? slot = none) : Asked t (.remove slot) (t, .entry none)
  | taken {messageType : MessageType} {sequenceId : UInt16} {slot : Nat} {e : Entry}
    (hfirst : t.IsFirstFor messageType sequenceId slot e) :
    Asked t (.take messageType sequenceId) (⟨t.slots.set slot none⟩, .entry (some e))
  | unmatched {messageType : MessageType} {sequenceId : UInt16}
    (hnone : ∀ slot e, t.get? slot = some e → e.isFor messageType sequenceId = false) :
    Asked t (.take messageType sequenceId) (t, .entry none)
  | got {slot : Nat} : Asked t (.get slot) (t, .entry (t.get? slot))
  | expired {now : Time} : Asked t (.expired now) (t, .slots (t.expired now))
  | counted : Asked t .counts (t, .counts t.capacity t.size t.isEmpty t.isFull)

theorem asked (t : InFlight) (q : Request) : Asked t q (t.ask q) := by
  cases q with
  | insert e =>
    rw [ask]
    cases hinsert : t.insert e with
    | some result =>
      have hroom : t.isFull = false := by
        rw [← Bool.not_eq_true, ← insert_eq_none (e := e), hinsert]
        exact Option.some_ne_none result
      obtain ⟨t', slot⟩ := result
      obtain ⟨hfirst, rfl⟩ := insert_eq_some.mp hinsert
      exact .stored (t.isFull_eq_false.mp hroom) hfirst
    | none =>
      -- there are as many commands as slots, since there is no room and never are more
      have hfull : ¬ t.size < t.capacity := by
        rw [← isFull_eq_false, insert_eq_none.mp hinsert]
        exact Bool.noConfusion
      exact .refused (Nat.le_antisymm t.size_le_capacity (Nat.le_of_not_lt hfull))
  | remove slot =>
    rw [ask]
    cases hget : t.get? slot with
    | some e => exact .removed hget
    | none =>
      rw [remove_eq_self hget]
      exact .vacant hget
  | take messageType sequenceId =>
    rw [ask]
    cases htake : t.take? messageType sequenceId with
    | some result =>
      obtain ⟨e, t'⟩ := result
      obtain ⟨slot, hfirst, rfl⟩ := take?_eq_some.mp htake
      exact .taken hfirst
    | none =>
      refine .unmatched fun slot e he => ?_
      exact take?_eq_none.mp htake e (mem_entries.mpr ⟨slot, he⟩)
  | get slot => exact .got
  | expired now => exact .expired
  | counts => exact .counted

@[simp] theorem capacity_ask (t : InFlight) (q : Request) : (t.ask q).1.capacity = t.capacity := by
  have hend := t.asked q
  generalize t.ask q = result at hend ⊢
  cases hend <;> simp [capacity]

/-- What a request adds to the slots and what it gives out make up the difference. -/
theorem loss_append_perm (t : InFlight) (q : Request) :
    (q.loss (t.ask q).2 ++ (t.ask q).1.entries).Perm (t.entries ++ q.gain (t.ask q).2) := by
  have hend := t.asked q
  generalize t.ask q = result at hend ⊢
  cases hend with
  | stored hroom hfirst =>
    exact (filterMap_set_perm hfirst.free).trans (List.perm_append_singleton _ _).symm
  | removed hget =>
    show List.Perm _ (t.entries ++ [])
    rw [List.append_nil]
    exact (entries_remove_perm hget).symm
  | taken hfirst =>
    show List.Perm _ (t.entries ++ [])
    rw [List.append_nil]
    exact (entries_remove_perm hfirst.get).symm
  | refused | vacant | unmatched | got | expired | counted =>
    simp [Request.gain, Request.loss]

/-- A request keeps the command of a slot where it is, or gives it out and frees the slot. -/
theorem get?_ask {t : InFlight} {slot : Nat} {e : Entry} (h : t.get? slot = some e) (q : Request) :
    (t.ask q).1.get? slot = some e ∨
      q.loss (t.ask q).2 = [e] ∧ (t.ask q).1.get? slot = none := by
  have hend := t.asked q
  generalize t.ask q = result at hend ⊢
  have hfree : ∀ {i e'}, t.get? i = some e' →
      (t.remove i).get? slot = some e ∨ [e'] = [e] ∧ (t.remove i).get? slot = none := by
    intro i e' hget
    by_cases hi : i = slot
    · subst hi
      rw [h, Option.some.injEq] at hget
      exact .inr ⟨by rw [hget], t.get?_remove_self i⟩
    · left
      rwa [t.get?_remove_of_ne hi]
  cases hend with
  | @stored e' i hroom hfirst =>
    have hi : i ≠ slot := by
      rintro rfl
      rw [hfirst.get?_eq_none] at h
      cases h
    left
    rw [get?_set, if_neg fun hset => hi hset.1, h]
  | removed hget => exact hfree hget
  | taken hfirst => exact hfree hfirst.get
  | refused | vacant | unmatched | got | expired | counted => exact .inl h

/-! ## Runs of requests -/

@[simp] theorem capacity_after (t : InFlight) (run : List Request) :
    (t.after run).capacity = t.capacity := by
  induction run generalizing t with
  | nil => rfl
  | cons q run ih => rw [after_cons, ih, capacity_ask]

/-- What was stored was given out or is still there. -/
theorem given_append_perm (t : InFlight) (run : List Request) :
    (t.given run ++ (t.after run).entries).Perm (t.entries ++ t.stored run) := by
  induction run generalizing t with
  | nil => simp [given, after, stored]
  | cons q run ih =>
    have hrest := (ih (t.ask q).1).append_left (q.loss (t.ask q).2)
    have hstep := (t.loss_append_perm q).append_right ((t.ask q).1.stored run)
    rw [List.append_assoc, List.append_assoc] at hstep
    rw [given, after_cons, stored, List.append_assoc]
    exact hrest.trans hstep

/-- A request of the run gives out the command of a slot. Before it, the command is in the slot all
the time; after it, the slot is free. -/
def Leaves (t : InFlight) (slot : Nat) (e : Entry) (run : List Request) : Prop :=
  ∃ xs q ys, run = xs ++ q :: ys ∧
    (∀ us vs, xs = us ++ vs → (t.after us).get? slot = some e) ∧
    q.loss ((t.after xs).ask q).2 = [e] ∧ ((t.after xs).ask q).1.get? slot = none

/-- A command is in its slot until it is given out. -/
theorem leaves_of_get? {t : InFlight} {slot : Nat} {e : Entry} (h : t.get? slot = some e)
    (run : List Request) : (t.after run).get? slot = some e ∨ t.Leaves slot e run := by
  induction run generalizing t with
  | nil => exact .inl h
  | cons q run ih =>
    rcases get?_ask h q with hstays | ⟨hloss, hfree⟩
    · rcases ih hstays with hafter | ⟨xs, q', ys, rfl, hbefore, hloss, hfree⟩
      · exact .inl hafter
      · refine .inr ⟨q :: xs, q', ys, rfl, fun us vs hus => ?_, hloss, hfree⟩
        cases us with
        | nil => exact h
        | cons q'' us =>
          obtain ⟨rfl, hxs⟩ := List.cons.inj hus
          exact hbefore us vs hxs
    · refine .inr ⟨[], q, run, rfl, fun us vs hus => ?_, hloss, hfree⟩
      obtain ⟨rfl, -⟩ := List.append_eq_nil_iff.mp hus.symm
      exact h

/-- The slots after a run hold what was stored and not given out, each command in its slot, and
every request is served as it should be. -/
structure IsStore (capacity : Nat) (run : List Request) (t : InFlight) : Prop where
  capacity_eq : t.capacity = capacity
  size_le : t.size ≤ capacity
  size_eq : t.size = t.entries.length
  /-- Some slot is free exactly if there are fewer commands than slots. -/
  isFull_iff : t.isFull = false ↔ t.size < capacity
  asked : ∀ q, Asked t q (t.ask q)
  /-- What was stored was given out or is still there. -/
  balance : ((empty capacity).given run ++ t.entries).Perm ((empty capacity).stored run)
  /-- Whatever was in a slot at any time of the run is still there, or was given out. -/
  stays : ∀ xs ys slot e, run = xs ++ ys → ((empty capacity).after xs).get? slot = some e →
    t.get? slot = some e ∨ ((empty capacity).after xs).Leaves slot e ys

/-- **The slots are a bounded store**, after whatever was asked of them since all were free. -/
theorem isStore_after (capacity : Nat) (run : List Request) :
    IsStore capacity run ((empty capacity).after run) := by
  have hcapacity : ((empty capacity).after run).capacity = capacity := by
    rw [capacity_after, InFlight.capacity, empty, List.length_replicate]
  constructor
  case capacity_eq => exact hcapacity
  case size_le => exact Nat.le_trans (size_le_capacity _) (Nat.le_of_eq hcapacity)
  case size_eq => exact size_eq_length _
  case isFull_iff => rw [isFull_eq_false, hcapacity]
  case asked => exact InFlight.asked _
  case balance =>
    have hperm := (empty capacity).given_append_perm run
    rwa [entries_empty, List.nil_append] at hperm
  case stays =>
    rintro xs ys slot e rfl hget
    rw [after_append]
    exact leaves_of_get? hget ys

end AvbEntity.Connection.InFlight

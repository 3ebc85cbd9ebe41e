import AvbEntity.Connection.InFlight

/-!
# The slots of commands in flight

What each operation on the slots does, said twice: slot by slot, and for the commands as a whole.
The second view forgets the slots, so that storing a command adds it and taking one removes it,
up to the order of the list.

## Main definitions

* `InFlight.entries`: the commands in flight, in the order of their slots

## Main results

* `InFlight.insert_eq_some`, `InFlight.insert_eq_none`: a command goes to the first free slot
* `InFlight.take?_eq_some`, `InFlight.take?_eq_none`: the first matching command is taken
* `InFlight.take?_insert`: a command that was stored is taken out again
* `InFlight.entries_insert_perm`, `InFlight.entries_take?_perm`: the same for the commands
-/

namespace AvbEntity.Connection

theorem Entry.isFor_iff {messageType : MessageType} {sequenceId : UInt16} {e : Entry} :
    e.isFor messageType sequenceId = true ↔
      e.command.messageType = messageType ∧ e.command.sequenceId = sequenceId := by
  simp [Entry.isFor]

namespace InFlight

/-- The commands in flight, in the order of their slots. -/
def entries (t : InFlight) : List Entry :=
  t.slots.filterMap id

/-! ## Slot by slot -/

theorem get?_eq_some {t : InFlight} {slot : Nat} {e : Entry} :
    t.get? slot = some e ↔ t.slots[slot]? = some (some e) := by
  simp [get?, Option.join_eq_some_iff]

theorem mem_entries {t : InFlight} {e : Entry} : e ∈ t.entries ↔ ∃ slot, t.get? slot = some e := by
  rw [entries, List.mem_filterMap]
  simp only [id, exists_eq_right, get?_eq_some, List.mem_iff_getElem?]

theorem get?_set (t : InFlight) (slot : Nat) (e? : Option Entry) (i : Nat) :
    (⟨t.slots.set slot e?⟩ : InFlight).get? i =
      if slot = i ∧ slot < t.slots.length then e? else t.get? i := by
  unfold get?
  rw [List.getElem?_set]
  by_cases h : slot = i
  · subst h
    by_cases hlt : slot < t.slots.length
    · simp [hlt]
    · simp [hlt]
  · simp [h]

theorem get?_remove_self (t : InFlight) (slot : Nat) : (t.remove slot).get? slot = none := by
  rw [remove, get?_set]
  by_cases h : slot < t.slots.length
  · simp [h]
  · simp [h, get?]

theorem get?_remove_of_ne (t : InFlight) {slot i : Nat} (h : slot ≠ i) :
    (t.remove slot).get? i = t.get? i := by
  rw [remove, get?_set, if_neg (fun hi => h hi.1)]

/-- A slot is the first free one: it exists and is free, and those before it are not. -/
structure IsFirstFree (t : InFlight) (slot : Nat) : Prop where
  free : t.slots[slot]? = some none
  occupied : ∀ i < slot, (t.get? i).isSome

theorem IsFirstFree.get?_eq_none {t : InFlight} {slot : Nat} (h : t.IsFirstFree slot) :
    t.get? slot = none := by
  simp [get?, h.free]

theorem IsFirstFree.lt {t : InFlight} {slot : Nat} (h : t.IsFirstFree slot) :
    slot < t.slots.length :=
  (List.getElem?_eq_some_iff.mp h.free).1

/-- A command is stored in the first free slot, and nothing else changes. -/
theorem insert_eq_some {t t' : InFlight} {e : Entry} {slot : Nat} :
    t.insert e = some (t', slot) ↔
      t.IsFirstFree slot ∧ t' = ⟨t.slots.set slot (some e)⟩ := by
  simp only [insert, Option.map_eq_some_iff, Prod.mk.injEq]
  constructor
  · rintro ⟨i, hi, rfl, rfl⟩
    obtain ⟨hlt, hfree, hbefore⟩ := List.findIdx?_eq_some_iff_getElem.mp hi
    refine ⟨⟨?_, fun j hj => ?_⟩, rfl⟩
    · rw [List.getElem?_eq_getElem hlt, Option.isNone_iff_eq_none.mp hfree]
    · have hjlt : j < t.slots.length := by omega
      have hj' := hbefore j hj
      rw [get?, List.getElem?_eq_getElem hjlt, Option.join_some]
      simpa [Option.isSome_iff_ne_none] using hj'
  · rintro ⟨h, rfl⟩
    refine ⟨slot, List.findIdx?_eq_some_iff_getElem.mpr ⟨h.lt, ?_, fun j hj => ?_⟩, rfl, rfl⟩
    · simp [(List.getElem?_eq_some_iff.mp h.free).2]
    · have hjlt : j < t.slots.length := Nat.lt_trans hj h.lt
      have hj' := h.occupied j hj
      rw [get?, List.getElem?_eq_getElem hjlt, Option.join_some] at hj'
      simpa [Option.isSome_iff_ne_none] using hj'

/-- No command is stored only if no slot is free. -/
theorem insert_eq_none {t : InFlight} {e : Entry} : t.insert e = none ↔ t.isFull := by
  simp only [insert, Option.map_eq_none_iff, List.findIdx?_eq_none_iff, isFull, List.all_eq_true]
  refine forall₂_congr fun e? _ => ?_
  cases e? <;> simp

/-- A slot is the first with a command of a type and a sequence number. -/
structure IsFirstFor (t : InFlight) (messageType : MessageType) (sequenceId : UInt16)
    (slot : Nat) (e : Entry) : Prop where
  get : t.get? slot = some e
  matching : e.isFor messageType sequenceId
  before : ∀ i < slot, ∀ e', t.get? i = some e' → e'.isFor messageType sequenceId = false

/-- The command of the first matching slot is taken, and nothing else changes. -/
theorem take?_eq_some {t t' : InFlight} {messageType : MessageType} {sequenceId : UInt16}
    {e : Entry} :
    t.take? messageType sequenceId = some (e, t') ↔
      ∃ slot, t.IsFirstFor messageType sequenceId slot e ∧ t' = t.remove slot := by
  simp only [take?, bind, Option.bind_eq_some_iff, pure, Option.some.injEq, Prod.mk.injEq]
  constructor
  · rintro ⟨slot, hslot, e, he, rfl, rfl⟩
    obtain ⟨hlt, hmatch, hbefore⟩ := List.findIdx?_eq_some_iff_getElem.mp hslot
    have hget : t.slots[slot] = some e := by
      simpa [List.getElem?_eq_getElem hlt] using get?_eq_some.mp he
    refine ⟨slot, ⟨he, by simpa [hget] using hmatch, fun i hi e' he' => ?_⟩, rfl⟩
    have hilt : i < t.slots.length := Nat.lt_trans hi hlt
    have hi' : t.slots[i] = some e' := by
      simpa [List.getElem?_eq_getElem hilt] using get?_eq_some.mp he'
    simpa [hi'] using hbefore i hi
  · rintro ⟨slot, h, rfl⟩
    obtain ⟨hlt, hget⟩ := List.getElem?_eq_some_iff.mp (get?_eq_some.mp h.get)
    refine ⟨slot, List.findIdx?_eq_some_iff_getElem.mpr ⟨hlt, ?_, fun i hi => ?_⟩, e, h.get, rfl,
      rfl⟩
    · simpa [hget] using h.matching
    · have hilt : i < t.slots.length := Nat.lt_trans hi hlt
      cases hi' : t.slots[i] with
      | none => simp
      | some e' =>
        have := h.before i hi e' (get?_eq_some.mpr (by rw [List.getElem?_eq_getElem hilt, hi']))
        simp [this]

/-- Nothing is taken only if no command matches. -/
theorem take?_eq_none {t : InFlight} {messageType : MessageType} {sequenceId : UInt16} :
    t.take? messageType sequenceId = none ↔
      ∀ e ∈ t.entries, e.isFor messageType sequenceId = false := by
  cases hfind : t.slots.findIdx? (·.any (Entry.isFor messageType sequenceId)) with
  | none =>
    have hall := List.findIdx?_eq_none_iff.mp hfind
    simp only [take?, hfind, bind, Option.bind_none, true_iff]
    intro e he
    obtain ⟨slot, hslot⟩ := mem_entries.mp he
    have hmem : some e ∈ t.slots := List.mem_of_getElem? (get?_eq_some.mp hslot)
    simpa using hall (some e) hmem
  | some slot =>
    obtain ⟨hlt, hany, -⟩ := List.findIdx?_eq_some_iff_getElem.mp hfind
    obtain ⟨e, he, hmatch⟩ := (Option.any_eq_true _ _).mp hany
    have hget : t.get? slot = some e := by
      rw [get?_eq_some, List.getElem?_eq_getElem hlt, he]
    simp only [take?, hfind, bind, Option.bind_some, hget, pure, reduceCtorEq, false_iff]
    intro hall
    rw [hall e (mem_entries.mpr ⟨slot, hget⟩)] at hmatch
    exact Bool.false_ne_true hmatch

/-- A command that is stored under a key of its own is taken out again, and all is as before. -/
theorem take?_insert {t t' : InFlight} {e : Entry} {slot : Nat} (h : t.insert e = some (t', slot))
    (hnew : ∀ e' ∈ t.entries, e'.isFor e.command.messageType e.command.sequenceId = false) :
    t'.take? e.command.messageType e.command.sequenceId = some (e, t) := by
  obtain ⟨hfirst, rfl⟩ := insert_eq_some.mp h
  refine take?_eq_some.mpr ⟨slot, ⟨?_, Entry.isFor_iff.mpr ⟨rfl, rfl⟩, fun i hi e' he' => ?_⟩, ?_⟩
  · rw [get?_set, if_pos ⟨rfl, hfirst.lt⟩]
  · rw [get?_set, if_neg fun hslot => Nat.ne_of_gt hi hslot.1] at he'
    exact hnew e' (mem_entries.mpr ⟨i, he'⟩)
  · obtain ⟨hlt, hfree⟩ := List.getElem?_eq_some_iff.mp hfirst.free
    rw [remove, List.set_set, ← hfree, List.set_getElem_self]

/-- Among slots that are all free there is a free one, if there is any slot. -/
theorem isFull_of_isEmpty {t : InFlight} (hcapacity : 0 < t.capacity) (hempty : t.isEmpty) :
    t.isFull = false := by
  obtain ⟨e?, rest, hslots⟩ := List.exists_cons_of_length_pos hcapacity
  rw [isEmpty, hslots, List.all_cons, Bool.and_eq_true] at hempty
  rw [isFull, hslots, List.all_cons, Option.isNone_iff_eq_none.mp hempty.1]
  rfl

/-! ## The commands as a whole -/

theorem entries_eq_nil {t : InFlight} : t.entries = [] ↔ t.isEmpty := by
  simp [entries, isEmpty, List.filterMap_eq_nil_iff]

theorem entries_empty (capacity : Nat) : (empty capacity).entries = [] := by
  simp [entries, empty]

theorem filterMap_set_perm {slots : List (Option Entry)} {slot : Nat} {e : Entry}
    (h : slots[slot]? = some none) :
    ((slots.set slot (some e)).filterMap id).Perm (e :: slots.filterMap id) := by
  -- slot by slot, up to the one that is filled
  induction slots generalizing slot with
  | nil => simp at h
  | cons e? slots ih =>
    cases slot with
    | zero =>
      obtain rfl : e? = none := by simpa using h
      exact List.Perm.refl _
    | succ slot =>
      have hslot : slots[slot]? = some none := by simpa using h
      have hperm := ih hslot
      cases e? with
      | none => simpa using hperm
      | some e' => simpa using (hperm.cons e').trans (List.Perm.swap ..)

/-- Storing a command adds it to the commands in flight. -/
theorem entries_insert_perm {t t' : InFlight} {e : Entry} {slot : Nat}
    (h : t.insert e = some (t', slot)) : t'.entries.Perm (e :: t.entries) := by
  obtain ⟨hfirst, rfl⟩ := insert_eq_some.mp h
  exact filterMap_set_perm hfirst.free

/-- Freeing a slot removes its command. -/
theorem entries_remove_perm {t : InFlight} {slot : Nat} {e : Entry} (h : t.get? slot = some e) :
    t.entries.Perm (e :: (t.remove slot).entries) := by
  obtain ⟨hlt, hslot⟩ := List.getElem?_eq_some_iff.mp (get?_eq_some.mp h)
  have hback : t.slots = (t.remove slot).slots.set slot (some e) := by
    rw [remove, List.set_set, ← hslot, List.set_getElem_self]
  have hfree : (t.remove slot).slots[slot]? = some none := by
    simp [remove, hlt]
  have hperm := filterMap_set_perm (e := e) hfree
  rwa [← hback] at hperm

/-- Taking a command removes it from the commands in flight, and it matches. -/
theorem entries_take?_perm {t t' : InFlight} {messageType : MessageType} {sequenceId : UInt16}
    {e : Entry} (h : t.take? messageType sequenceId = some (e, t')) :
    t.entries.Perm (e :: t'.entries) ∧ e.command.messageType = messageType ∧
      e.command.sequenceId = sequenceId := by
  obtain ⟨slot, hfirst, rfl⟩ := take?_eq_some.mp h
  exact ⟨entries_remove_perm hfirst.get, Entry.isFor_iff.mp hfirst.matching⟩

end InFlight

end AvbEntity.Connection

import AvbEntity.Proofs.Enumeration.Declared
import AvbEntity.Proofs.Wire.Restoring

/-!
# Plans of reading

A descriptor is read part by part, and what is read says which part is next. A plan is a reader of
this kind, laid open: each step names the layout that is read, so that the same plan can be carried
out in other ways too. It can be carried out on windows, which shows that no octet is looked at that
is not there; and it can be turned around, so that every part that was read is written again.

## Main definitions

* `Plan`, `Plan.run`: parts one after another, and what is read of them
* `Plan.taken`, `Plan.rewrite`: how many octets are read, and what they are when written again
* `Plan.runWithin`: the plan, carried out on windows
* `Layout.Exact`, `Plan.Exact`: nothing is looked at beyond a part, and nothing of it is lost, if
  the octets at some places are texts
* `Plan.WritesAs`: what is read is written as its parts are

## Main results

* `Plan.taken_le`, `Plan.run_congr`, `Plan.run_take_of_lt`: the octets that are read are there, tell
  the result, and none of them may be missing
* `Plan.runWithin_eq`: the windows are there
* `Plan.rewrite_eq_take`: the octets that are read are those that are written again
-/

namespace AvbEntity

/-! ## Exact layouts -/

namespace Layout

variable {α β : Type}

/-- The layout looks at no octet behind its width, and writes back what it reads if there is a text
at each of the places. -/
structure Exact (l : Layout α) (texts : List Nat) : Prop where
  confined : l.Confined
  restores : ∀ bs : Octets, (∀ start ∈ texts, IsText ((bs.drop start).take textWidth)) →
    l.Restores bs

namespace Exact

theorem word8 : word8.Exact [] := ⟨confined_word8, fun bs _ => restores_word8 bs⟩

theorem word16 : word16.Exact [] := ⟨confined_word16, fun bs _ => restores_word16 bs⟩

theorem word32 : word32.Exact [] := ⟨confined_word32, fun bs _ => restores_word32 bs⟩

theorem word64 : word64.Exact [] := ⟨confined_word64, fun bs _ => restores_word64 bs⟩

theorem eui64 : eui64.Exact [] := ⟨confined_eui64, fun bs _ => restores_eui64 bs⟩

theorem mac : mac.Exact [] := ⟨confined_mac, fun bs _ => restores_mac bs⟩

theorem text : text.Exact [0] :=
  ⟨confined_text, fun _ h => restores_text (h 0 (List.mem_singleton_self 0))⟩

/-- The places of the second part are counted from the start of the first. -/
theorem pair {l : Layout α} {r : Layout β} {s t : List Nat} (hl : l.Exact s) (hr : r.Exact t) :
    (l.pair r).Exact (s ++ t.map (l.width + ·)) where
  confined := hl.confined.pair hr.confined
  restores bs h := by
    have hleft : ∀ start ∈ s, IsText ((bs.drop start).take textWidth) :=
      fun start hs => h start (List.mem_append_left _ hs)
    have hright : ∀ start ∈ t, IsText (((bs.drop l.width).drop start).take textWidth) := by
      intro start ht
      rw [List.drop_drop]
      exact h _ (List.mem_append_right _ (List.mem_map_of_mem ht))
    exact (hl.restores bs hleft).pair (hr.restores _ hright)

theorem iso {l : Layout α} {make : α → β} {back : β → α} {s : List Nat} (hl : l.Exact s)
    (h : ∀ a, back (make a) = a) : (l.iso make back).Exact s where
  confined := hl.confined.iso make back
  restores bs hs := (hl.restores bs hs).iso h

theorem vector {l : Layout α} {s : List Nat} (hl : l.Exact s) (n : Nat) :
    (l.vector n).Exact ((List.range n).flatMap fun i => s.map (i * l.width + ·)) where
  confined := hl.confined.vector n
  restores bs h := by
    refine .vector fun i hi => hl.restores _ fun start hs => ?_
    rw [List.drop_drop]
    exact h _ (List.mem_flatMap.mpr ⟨i, List.mem_range.mpr hi, List.mem_map_of_mem hs⟩)

end Exact

end Layout

/-! ## Plans -/

/-- How octets are read: part by part, where what was read says how to go on. -/
inductive Plan (α : Type) : Type 1 where
  /-- Everything is read. -/
  | give (a : α)
  /-- What was read is refused. -/
  | refuse (fault : DecodeError)
  /-- A part of fixed width is next. -/
  | part {β : Type} (l : Layout β) (next : β → Plan α)
  /-- An array is next. -/
  | array {β : Type} (l : Layout β) (count : UInt16) (next : List β → Plan α)

namespace Plan

variable {α β : Type}

/-- What is read at the start of octets. -/
def run : Plan α → Octets → Except DecodeError α
  | give a, _ => .ok a
  | refuse fault, _ => .error fault
  | part l next, bs => do
    let b ← l.parse bs
    (next b).run (bs.drop l.width)
  | array l count next, bs => do
    let (xs, rest) ← l.parseArray count bs
    (next xs).run rest

/-- The number of octets that are read. -/
def taken : Plan α → Octets → Nat
  | give _, _ => 0
  | refuse _, _ => 0
  | part l next, bs => l.width + (next (l.read bs)).taken (bs.drop l.width)
  | array l count next, bs =>
    count.toNat * l.width +
      (next (l.readArray count.toNat bs)).taken (bs.drop (count.toNat * l.width))

/-- The parts that are read, written again. -/
def rewrite : Plan α → Octets → Octets
  | give _, _ => []
  | refuse _, _ => []
  | part l next, bs => l.write (l.read bs) ++ (next (l.read bs)).rewrite (bs.drop l.width)
  | array l count next, bs =>
    l.writeArray (l.readArray count.toNat bs) ++
      (next (l.readArray count.toNat bs)).rewrite (bs.drop (count.toNat * l.width))

/-- The values of an array, each read from a window of its own. -/
def readEntries (l : Layout β) (bs : Octets) (start : Nat) : Nat → Except ReadFault (List β)
  | 0 => return []
  | n + 1 => do
    let b ← l.readAt bs start
    let xs ← readEntries l bs (start + l.width) n
    return b :: xs

/-- What is read from a place on, each part from a window of its own. The length checks are those of
`run`, but a part gets to see no octet outside its window, and a window that is not there is a fault
of its own. -/
def runWithin (bs : Octets) : Plan α → Nat → Except ReadFault α
  | give a, _ => .ok a
  | refuse fault, _ => .error (.decode fault)
  | part l next, start => do
    (ensureLength (bs.drop start) l.width).mapError .decode
    let b ← l.readAt bs start
    (next b).runWithin bs (start + l.width)
  | array l count next, start => do
    (ensureLength (bs.drop start) (count.toNat * l.width)).mapError .decode
    let xs ← readEntries l bs start count.toNat
    (next xs).runWithin bs (start + count.toNat * l.width)

/-- The plan that goes on with the offset of the layout, and refuses any other. -/
def checkOffset (field : String) (found : UInt16) (expected : Nat) (next : Plan α) : Plan α :=
  if found.toNat = expected then next
  else refuse (.badOffset field found (Descriptor.offsetWord expected))

/-- The same parts, with values of another shape. -/
def map (f : α → β) : Plan α → Plan β
  | give a => give (f a)
  | refuse fault => refuse fault
  | part l next => part l fun b => (next b).map f
  | array l count next => array l count fun xs => (next xs).map f

/-- A fixed part and nothing else. -/
def ofLayout (l : Layout α) : Plan α :=
  part l give

/-! ### What is read -/

theorem map_eq_ok {ε : Type} {f : α → β} {x : Except ε α} {b : β} :
    f <$> x = .ok b ↔ ∃ a, x = .ok a ∧ f a = b := by
  cases x <;> simp [Functor.map, Except.map]

theorem run_map (f : α → β) (plan : Plan α) (bs : Octets) :
    (plan.map f).run bs = f <$> plan.run bs := by
  induction plan generalizing bs with
  | give a => rfl
  | refuse fault => rfl
  | part l next ih =>
    simp only [map, run, ih]
    cases l.parse bs <;> rfl
  | array l count next ih =>
    simp only [map, run, ih]
    cases l.parseArray count bs <;> rfl

theorem run_checkOffset (field : String) (found : UInt16) (expected : Nat) (next : Plan α)
    (bs : Octets) :
    (checkOffset field found expected next).run bs =
      Descriptor.checkOffset field found expected >>= fun _ => next.run bs := by
  rw [checkOffset, Descriptor.checkOffset]
  by_cases hfound : found.toNat = expected
  · rw [if_pos hfound, if_pos hfound]
    rfl
  · rw [if_neg hfound, if_neg hfound]
    rfl

theorem run_ofLayout (l : Layout α) (bs : Octets) : (ofLayout l).run bs = l.parse bs := by
  simp only [ofLayout, run]
  cases l.parse bs <;> rfl

theorem parse_eq_ok {l : Layout α} {bs : Octets} {a : α} :
    l.parse bs = .ok a ↔ l.width ≤ bs.length ∧ l.read bs = a := by
  rw [Layout.parse, bind_eq_ok]
  simp only [ensureLength_eq_ok, pure, Except.pure, Except.ok.injEq, exists_const]

/-- A part is read if it is there, and the plan goes on behind it. -/
theorem run_part_eq_ok {l : Layout β} {next : β → Plan α} {bs : Octets} {a : α} :
    (part l next).run bs = .ok a ↔
      l.width ≤ bs.length ∧ (next (l.read bs)).run (bs.drop l.width) = .ok a := by
  rw [run, bind_eq_ok]
  constructor
  · rintro ⟨b, hb, hnext⟩
    obtain ⟨hlong, rfl⟩ := parse_eq_ok.mp hb
    exact ⟨hlong, hnext⟩
  · rintro ⟨hlong, hnext⟩
    exact ⟨_, parse_eq_ok.mpr ⟨hlong, rfl⟩, hnext⟩

/-- An array is read if it is there, and the plan goes on behind it. -/
theorem run_array_eq_ok {l : Layout β} {count : UInt16} {next : List β → Plan α} {bs : Octets}
    {a : α} :
    (array l count next).run bs = .ok a ↔
      count.toNat * l.width ≤ bs.length ∧
        (next (l.readArray count.toNat bs)).run (bs.drop (count.toNat * l.width)) = .ok a := by
  rw [run, bind_eq_ok]
  simp only [Layout.parseArray, bind_eq_ok, ensureLength_eq_ok, pure, Except.pure,
    Except.ok.injEq]
  constructor
  · rintro ⟨_, ⟨_, hlong, rfl⟩, hnext⟩
    exact ⟨hlong, hnext⟩
  · rintro ⟨hlong, hnext⟩
    exact ⟨_, ⟨(), hlong, rfl⟩, hnext⟩

theorem run_checkOffset_eq_ok {field : String} {found : UInt16} {expected : Nat} {next : Plan α}
    {bs : Octets} {a : α} :
    (checkOffset field found expected next).run bs = .ok a ↔
      found.toNat = expected ∧ next.run bs = .ok a := by
  rw [run_checkOffset, bind_eq_ok]
  simp only [Descriptor.checkOffset, ite_eq_ok, exists_const]

/-! ### What is written again -/

theorem length_rewrite (plan : Plan α) (bs : Octets) :
    (plan.rewrite bs).length = plan.taken bs := by
  induction plan generalizing bs with
  | give a => rfl
  | refuse fault => rfl
  | part l next ih => rw [rewrite, List.length_append, l.length_write, ih, taken]
  | array l count next ih =>
    rw [rewrite, List.length_append, l.length_writeArray, l.length_readArray, ih, taken]

theorem rewrite_map (f : α → β) (plan : Plan α) (bs : Octets) :
    (plan.map f).rewrite bs = plan.rewrite bs := by
  induction plan generalizing bs with
  | give a => rfl
  | refuse fault => rfl
  | part l next ih => rw [map, rewrite, rewrite, ih]
  | array l count next ih => rw [map, rewrite, rewrite, ih]

theorem rewrite_checkOffset {field : String} {found : UInt16} {expected : Nat} {next : Plan α}
    (h : found.toNat = expected) (bs : Octets) :
    (checkOffset field found expected next).rewrite bs = next.rewrite bs := by
  rw [checkOffset, if_pos h]

/-- What is read is written as its parts are. -/
def WritesAs (plan : Plan α) (write : α → Octets) : Prop :=
  ∀ bs a, plan.run bs = .ok a → write a = plan.rewrite bs

namespace WritesAs

theorem ofLayout (l : Layout α) : (ofLayout l).WritesAs l.write := by
  intro bs a h
  rw [run_ofLayout, parse_eq_ok] at h
  obtain ⟨-, rfl⟩ := h
  exact (List.append_nil _).symm

theorem map {plan : Plan α} {write : α → Octets} {write' : β → Octets} {f : α → β}
    (h : plan.WritesAs write) (hf : ∀ a, write' (f a) = write a) :
    (plan.map f).WritesAs write' := by
  intro bs b hrun
  rw [run_map] at hrun
  obtain ⟨a, ha, rfl⟩ := map_eq_ok.mp hrun
  rw [hf, rewrite_map, h bs a ha]

end WritesAs

/-! ### The octets that are read -/

/-- Every layout looks at no octet behind its width. -/
def Confined : Plan α → Prop
  | give _ => True
  | refuse _ => True
  | part l next => l.Confined ∧ ∀ b, (next b).Confined
  | array l _ next => l.Confined ∧ ∀ xs, (next xs).Confined

/-- What is read is there. -/
theorem taken_le {plan : Plan α} {bs : Octets} {a : α} (h : plan.run bs = .ok a) :
    plan.taken bs ≤ bs.length := by
  induction plan generalizing bs with
  | give a => exact Nat.zero_le _
  | refuse fault => cases h
  | part l next ih =>
    obtain ⟨hlong, hnext⟩ := run_part_eq_ok.mp h
    have hrest := ih _ hnext
    rw [List.length_drop] at hrest
    rw [taken]
    omega
  | array l count next ih =>
    obtain ⟨hlong, hnext⟩ := run_array_eq_ok.mp h
    have hrest := ih _ hnext
    rw [List.length_drop] at hrest
    rw [taken]
    omega

/-- The same octets are there, and behind some of them the same are left. -/
theorem agree_drop {bs bs' : Octets} {w k : Nat} (hlong : w ≤ bs.length)
    (h : bs'.take (w + k) = bs.take (w + k)) :
    w ≤ bs'.length ∧ bs'.take w = bs.take w ∧
      (bs'.drop w).take k = (bs.drop w).take k := by
  refine ⟨?_, ?_, ?_⟩
  · have hlength := congrArg List.length h
    rw [List.length_take, List.length_take] at hlength
    omega
  · have htake := congrArg (List.take w) h
    rwa [List.take_take, List.take_take, Nat.min_eq_left (Nat.le_add_right ..)] at htake
  · have hdrop := congrArg (List.drop w) h
    rwa [List.drop_take, List.drop_take, Nat.add_sub_cancel_left] at hdrop

/-- What is read is told by the octets that are read, whatever follows them. -/
theorem run_congr {plan : Plan α} (hconfined : plan.Confined) {bs bs' : Octets} {a : α}
    (h : plan.run bs = .ok a) (hagree : bs'.take (plan.taken bs) = bs.take (plan.taken bs)) :
    plan.run bs' = .ok a := by
  induction plan generalizing bs bs' with
  | give a => exact h
  | refuse fault => exact h
  | part l next ih =>
    obtain ⟨hlong, hnext⟩ := run_part_eq_ok.mp h
    obtain ⟨hlong', hfirst, hrest⟩ := agree_drop hlong hagree
    have hread : l.read bs' = l.read bs := by
      rw [← hconfined.1 bs' _ (Nat.le_refl _), hfirst, hconfined.1 bs _ (Nat.le_refl _)]
    exact run_part_eq_ok.mpr ⟨hlong', hread ▸ ih _ (hconfined.2 _) hnext hrest⟩
  | array l count next ih =>
    obtain ⟨hlong, hnext⟩ := run_array_eq_ok.mp h
    obtain ⟨hlong', hfirst, hrest⟩ := agree_drop hlong hagree
    have hread : l.readArray count.toNat bs' = l.readArray count.toNat bs := by
      rw [← hconfined.1.readArray_take (Nat.le_refl _) bs', hfirst,
        hconfined.1.readArray_take (Nat.le_refl _)]
    exact run_array_eq_ok.mpr ⟨hlong', hread ▸ ih _ (hconfined.2 _) hnext hrest⟩

/-- None of the octets that are read may be missing at the end. -/
theorem run_take_of_lt {plan : Plan α} (hconfined : plan.Confined) {bs : Octets} {a : α}
    (h : plan.run bs = .ok a) {k : Nat} (hk : k < plan.taken bs) :
    ∃ needed available, plan.run (bs.take k) = .error (.truncated needed available) := by
  induction plan generalizing bs k with
  | give a => exact absurd hk (Nat.not_lt_zero k)
  | refuse fault => cases h
  | part l next ih =>
    obtain ⟨hlong, hnext⟩ := run_part_eq_ok.mp h
    obtain hshort | hpart := Nat.lt_or_ge k l.width
    -- the first part is cut off, or the cut is behind it
    · refine ⟨l.width, k, ?_⟩
      rw [run, Layout.parse, ensureLength_take_of_lt (by omega) hshort]
      rfl
    · rw [taken] at hk
      obtain ⟨needed, available, herror⟩ :=
        ih (l.read bs) (hconfined.2 _) hnext (k := k - l.width) (by omega)
      refine ⟨needed, available, ?_⟩
      rw [run, Layout.parse, ensureLength_take hpart, (ensureLength_eq_ok (u := ())).mpr hlong,
        hconfined.1 bs k hpart, List.drop_take]
      exact herror
  | array l count next ih =>
    obtain ⟨hlong, hnext⟩ := run_array_eq_ok.mp h
    obtain hshort | hpart := Nat.lt_or_ge k (count.toNat * l.width)
    · refine ⟨count.toNat * l.width, k, ?_⟩
      rw [run, Layout.parseArray, ensureLength_take_of_lt (by omega) hshort]
      rfl
    · rw [taken] at hk
      obtain ⟨needed, available, herror⟩ :=
        ih (l.readArray count.toNat bs) (hconfined.2 _) hnext
          (k := k - count.toNat * l.width) (by omega)
      refine ⟨needed, available, ?_⟩
      rw [run, Layout.parseArray, ensureLength_take hpart, (ensureLength_eq_ok (u := ())).mpr hlong,
        hconfined.1.readArray_take hpart, List.drop_take]
      exact herror

/-! ### Windows -/

/-- The windows of an array that is there tell its values. -/
theorem readEntries_eq {l : Layout β} (hl : l.Confined) {bs : Octets} {start n : Nat}
    (h : start + n * l.width ≤ bs.length) :
    readEntries l bs start n = .ok (l.readArray n (bs.drop start)) := by
  induction n generalizing start with
  | zero => rfl
  | succ n ih =>
    rw [Nat.succ_mul] at h
    rw [readEntries, hl.readAt_eq (by omega), ih (by omega), Layout.readArray, List.drop_drop]
    rfl

/-- **No octet is looked at that is not there**: read from windows, the plan finds every window. -/
theorem runWithin_eq {plan : Plan α} (hconfined : plan.Confined) {bs : Octets} {start : Nat}
    (hstart : start ≤ bs.length) :
    plan.runWithin bs start = (plan.run (bs.drop start)).mapError .decode := by
  induction plan generalizing start with
  | give a => rfl
  | refuse fault => rfl
  | part l next ih =>
    have hbind : (part l next).run (bs.drop start) =
        (ensureLength (bs.drop start) l.width >>= fun _ =>
          (next (l.read (bs.drop start))).run ((bs.drop start).drop l.width)) := by
      rw [run, Layout.parse]
      cases ensureLength (bs.drop start) l.width <;> rfl
    rw [hbind, runWithin]
    refine ensureLength_bind_congr fun hlong => ?_
    rw [List.length_drop] at hlong
    rw [hconfined.1.readAt_eq (by omega), bind_ok, ih _ (hconfined.2 _) (by omega),
      List.drop_drop]
  | array l count next ih =>
    have hbind : (array l count next).run (bs.drop start) =
        (ensureLength (bs.drop start) (count.toNat * l.width) >>= fun _ =>
          (next (l.readArray count.toNat (bs.drop start))).run
            ((bs.drop start).drop (count.toNat * l.width))) := by
      rw [run, Layout.parseArray]
      cases ensureLength (bs.drop start) (count.toNat * l.width) <;> rfl
    rw [hbind, runWithin]
    refine ensureLength_bind_congr fun hlong => ?_
    rw [List.length_drop] at hlong
    rw [readEntries_eq hconfined.1 (by omega), bind_ok, ih _ (hconfined.2 _) (by omega),
      List.drop_drop]

/-! ### Exact plans -/

/-- Every part that is read is written back. -/
def Restores : Plan α → Octets → Prop
  | give _, _ => True
  | refuse _, _ => True
  | part l next, bs => l.Restores bs ∧ (next (l.read bs)).Restores (bs.drop l.width)
  | array l count next, bs =>
    (count.toNat * l.width ≤ bs.length →
      l.writeArray (l.readArray count.toNat bs) = bs.take (count.toNat * l.width)) ∧
    (next (l.readArray count.toNat bs)).Restores (bs.drop (count.toNat * l.width))

/-- What is written again is what was read. -/
theorem rewrite_eq_take {plan : Plan α} {bs : Octets} {a : α} (h : plan.run bs = .ok a)
    (hrestores : plan.Restores bs) : plan.rewrite bs = bs.take (plan.taken bs) := by
  induction plan generalizing bs with
  | give a => rfl
  | refuse fault => rfl
  | part l next ih =>
    obtain ⟨hlong, hnext⟩ := run_part_eq_ok.mp h
    rw [rewrite, taken, hrestores.1 hlong, ih _ hnext hrestores.2, List.take_add]
  | array l count next ih =>
    obtain ⟨hlong, hnext⟩ := run_array_eq_ok.mp h
    rw [rewrite, taken, hrestores.1 hlong, ih _ hnext hrestores.2, List.take_add]

/-- No part is looked beyond, and every part is written back, if there is a text at each of the
places. -/
structure Exact (plan : Plan α) (texts : List Nat) : Prop where
  confined : plan.Confined
  restores : ∀ bs : Octets,
    (∀ start ∈ texts, Layout.IsText ((bs.drop start).take Layout.textWidth)) → plan.Restores bs

namespace Exact

variable {s : List Nat}

theorem give (a : α) : (give a).Exact [] := ⟨trivial, fun _ _ => trivial⟩

theorem refuse (fault : DecodeError) : (refuse fault : Plan α).Exact s :=
  ⟨trivial, fun _ _ => trivial⟩

/-- No text is left behind the first part. -/
theorem part {l : Layout β} {next : β → Plan α} (hl : l.Exact s) (h : ∀ b, (next b).Exact []) :
    (part l next).Exact s where
  confined := ⟨hl.confined, fun b => (h b).confined⟩
  restores bs hs := ⟨hl.restores bs hs, (h _).restores _ (List.forall_mem_nil _)⟩

theorem array {l : Layout β} {count : UInt16} {next : List β → Plan α} (hl : l.Exact [])
    (h : ∀ xs, (next xs).Exact []) : (array l count next).Exact [] where
  confined := ⟨hl.confined, fun xs => (h xs).confined⟩
  restores bs hs := by
    have hvalue : ∀ bs, l.Restores bs :=
      fun bs => hl.restores bs (List.forall_mem_nil _)
    exact ⟨Layout.Restores.writeArray_readArray fun _ _ => hvalue _,
      (h _).restores _ (List.forall_mem_nil _)⟩

theorem ofLayout {l : Layout α} (hl : l.Exact s) : (ofLayout l).Exact s :=
  part hl give

theorem checkOffset {field : String} {found : UInt16} {expected : Nat} {next : Plan α}
    (h : next.Exact s) : (checkOffset field found expected next).Exact s := by
  unfold Plan.checkOffset
  split
  · exact h
  · exact refuse _

theorem map {plan : Plan α} (h : plan.Exact s) (f : α → β) : (plan.map f).Exact s where
  confined := by
    obtain ⟨hconfined, -⟩ := h
    induction plan with
    | give a => trivial
    | refuse fault => trivial
    | part l next ih => exact ⟨hconfined.1, fun b => ih b (hconfined.2 b)⟩
    | array l count next ih => exact ⟨hconfined.1, fun xs => ih xs (hconfined.2 xs)⟩
  restores bs hs := by
    have hrestores := h.restores bs hs
    clear h hs
    induction plan generalizing bs with
    | give a => trivial
    | refuse fault => trivial
    | part l next ih => exact ⟨hrestores.1, ih _ _ hrestores.2⟩
    | array l count next ih => exact ⟨hrestores.1, ih _ _ hrestores.2⟩

end Exact

end Plan

end AvbEntity

import AvbEntity.Model.Build
import AvbEntity.Proofs.Descriptor.Normal

/-!
# How the descriptors of a configuration are numbered

Building counts the descriptors of a configuration for each kind and numbers them in the order of
the tree, so that those of one kind have the indices zero, one, two and so on. As there are no more
of a kind than there are indices, a descriptor is found under its index, and the list of the
CONFIGURATION says how many there are.

## Main definitions

* `Build.numberFrom`: the numbering when some descriptors were counted before

## Main results

* `Build.tally_eq_ok`: what counting finds
* `Build.filter_number`: the descriptors of one kind are numbered from zero
* `Build.find?_eq_getElem?`: the descriptor of an index is the one at this place
* `Build.mem_descriptorCounts`: what the CONFIGURATION lists
-/

namespace AvbEntity

theorem Kind.code_inj {k k' : Kind} : k.code = k'.code ↔ k = k' := by
  refine ⟨fun h => Option.some.inj ?_, fun h => h ▸ rfl⟩
  rw [← all_getElem_code k, ← all_getElem_code k', h]

theorem Kind.ofCode?_eq_some {n : UInt16} {k : Kind} : ofCode? n = some k ↔ k.code = n := by
  refine ⟨fun h => ?_, fun h => h ▸ all_getElem_code k⟩
  have hall : ∀ i : Fin all.length, all[i].code.toNat = i := by decide
  obtain ⟨hlt, rfl⟩ := List.getElem?_eq_some_iff.mp h
  exact UInt16.toNat_inj.mp (hall ⟨n.toNat, hlt⟩)

/-! ## Counting -/

namespace Tally

theorem count_empty (k : Kind) : empty.count k = 0 := by
  simp [empty, count, Vector.get]

theorem count_add (t : Tally) (k k' : Kind) :
    (t.add k).count k' = if k = k' then t.count k' + 1 else t.count k' := by
  have hget : ∀ (v : Vector Nat 38) (i : Fin 38), v.get i = v[i.val] := fun _ _ => rfl
  simp only [count, add, hget, Vector.getElem_set]
  by_cases hk : k = k'
  · subst hk
    rw [if_pos rfl, if_pos rfl]
  · have hcode : k.code.toNat ≠ k'.code.toNat :=
      fun h => hk (Kind.code_inj.mp (UInt16.toNat_inj.mp h))
    rw [if_neg hcode, if_neg hk]

end Tally

namespace Build

open Descriptor (DescriptorCount)

/-- What was counted when counting goes on after some descriptors. -/
theorem foldlM_tallyOne_eq_ok {position : Nat} {ds : List Descriptor} {t t' : Tally}
    (h : ds.foldlM (tallyOne position) t = .ok t') :
    (∀ d ∈ ds, checkPlace d = .ok ()) ∧
      (∀ k, t'.count k = t.count k + ds.countP (·.kind == k)) ∧
      ((∀ k, t.count k ≤ maxCount) → ∀ k, t'.count k ≤ maxCount) := by
  induction ds generalizing t with
  | nil =>
    obtain rfl := Except.ok.inj h
    exact ⟨fun d hd => absurd hd List.not_mem_nil, fun k => rfl, id⟩
  | cons d ds ih =>
    rw [List.foldlM_cons] at h
    obtain ⟨t₁, hone, h⟩ := bind_eq_ok.mp h
    obtain ⟨_, hplace, hone⟩ := bind_eq_ok.mp hone
    by_cases hcount : t.count d.kind < maxCount
    · rw [if_pos hcount] at hone
      obtain rfl := Except.ok.inj hone
      obtain ⟨hplaces, hcounts, hmax⟩ := ih h
      refine ⟨List.forall_mem_cons.mpr ⟨hplace, hplaces⟩, fun k => ?_, fun ht => hmax fun k => ?_⟩
      · rw [hcounts, Tally.count_add, List.countP_cons]
        by_cases hk : d.kind = k
        · simp only [hk, if_pos, beq_self_eq_true]
          omega
        · simp [hk]
      · rw [Tally.count_add]
        split
        next hk => exact hk ▸ hcount
        next => exact ht k
    · rw [if_neg hcount] at hone
      cases hone

/-- Counting finds every descriptor in its place, and no more of a kind than can be numbered. -/
theorem tally_eq_ok {position : Nat} {ds : List Descriptor} {t : Tally}
    (h : tally position ds = .ok t) :
    (∀ d ∈ ds, checkPlace d = .ok ()) ∧
      ∀ k, t.count k = ds.countP (·.kind == k) ∧ t.count k ≤ maxCount := by
  obtain ⟨hplaces, hcounts, hmax⟩ := foldlM_tallyOne_eq_ok h
  refine ⟨hplaces, fun k => ⟨?_, hmax (fun k => ?_) k⟩⟩
  · rw [hcounts, Tally.count_empty, Nat.zero_add]
  · rw [Tally.count_empty]
    exact Nat.zero_le _

/-! ## Numbering -/

/-- The numbering when some descriptors were counted before. -/
def numberFrom (t : Tally) : List Descriptor → List Descriptor
  | [] => []
  | d :: ds => d.renumber (.ofNat (t.count d.kind)) :: numberFrom (t.add d.kind) ds

theorem number_eq (ds : List Descriptor) : number ds = numberFrom .empty ds := by
  -- what was numbered before stands backwards in front
  have hfold : ∀ (ds : List Descriptor) (state : Tally × List Descriptor),
      (ds.foldl (fun state d => (state.1.add d.kind,
        d.renumber (.ofNat (state.1.count d.kind)) :: state.2)) state).2.reverse =
        state.2.reverse ++ numberFrom state.1 ds := by
    intro ds
    induction ds with
    | nil =>
      intro state
      exact (List.append_nil _).symm
    | cons d ds ih =>
      intro state
      rw [List.foldl_cons, ih, List.reverse_cons, List.append_assoc]
      rfl
  exact hfold ds (.empty, [])

@[simp] theorem kind_renumber (index : UInt16) (d : Descriptor) :
    (d.renumber index).kind = d.kind := by
  cases d <;> rfl

/-- Only the ENTITY has no index of its own. -/
theorem index_renumber {d : Descriptor} (h : d.kind ≠ .entity) (index : UInt16) :
    (d.renumber index).index = index := by
  cases d with
  | entity e => exact absurd rfl h
  | numbered i b => rfl

theorem filter_numberFrom (t : Tally) (ds : List Descriptor) (k : Kind) :
    (numberFrom t ds).filter (·.kind == k) =
      ((ds.filter (·.kind == k)).zipIdx (t.count k)).map fun (d, i) => d.renumber (.ofNat i) := by
  induction ds generalizing t with
  | nil => rfl
  | cons d ds ih =>
    rw [numberFrom, List.filter_cons, List.filter_cons, kind_renumber, ih, Tally.count_add]
    by_cases hk : d.kind = k
    · subst hk
      simp
    · simp [hk]

/-- The descriptors of one kind are numbered from zero, in the order of the tree. -/
theorem filter_number (ds : List Descriptor) (k : Kind) :
    (number ds).filter (·.kind == k) =
      (ds.filter (·.kind == k)).zipIdx.map fun (d, i) => d.renumber (.ofNat i) := by
  rw [number_eq, filter_numberFrom, Tally.count_empty]

section

variable (mac : Mac) (strings : UInt16)

@[simp] theorem kind_complete (d : Descriptor) : (complete mac strings d).kind = d.kind := by
  unfold complete
  split
  next => rfl
  next => split <;> rfl
  next => rfl

@[simp] theorem index_complete (d : Descriptor) : (complete mac strings d).index = d.index := by
  unfold complete
  split
  next => rfl
  next => split <;> rfl
  next => rfl

end

/-! ## Descriptors in their place -/

@[simp] theorem isKnown_renumber (index : UInt16) (d : Descriptor) :
    (d.renumber index).isKnown = d.isKnown := by
  cases d <;> rfl

@[simp] theorem isKnown_complete (mac : Mac) (strings : UInt16) (d : Descriptor) :
    (complete mac strings d).isKnown = d.isKnown := by
  unfold complete
  split
  next => rfl
  next => split <;> rfl
  next => rfl

/-- What belongs into a configuration is neither the ENTITY nor a CONFIGURATION, and is known if its
kind has a layout. -/
theorem checkPlace_eq_ok {d : Descriptor} (h : checkPlace d = .ok ()) :
    d.isKnown = d.kind.hasLayout ∧ d.kind ≠ .entity ∧ d.kind ≠ .configuration := by
  cases d with
  | entity e => cases h
  | numbered index b =>
    cases b with
    | configuration c => cases h
    | unsupported kind =>
      -- only the kinds without a layout are admitted, and the other two have one
      have hlayout : kind.hasLayout = false := by
        cases hkind : kind.hasLayout with
        | false => rfl
        | true =>
          rw [checkPlace, hkind, if_pos rfl] at h
          cases h
      refine ⟨hlayout.symm, ?_, ?_⟩
      · rintro rfl
        exact Bool.false_ne_true hlayout.symm
      · rintro rfl
        exact Bool.false_ne_true hlayout.symm
    | stream direction s => cases direction <;> exact ⟨rfl, Kind.noConfusion, Kind.noConfusion⟩
    | jack direction j => cases direction <;> exact ⟨rfl, Kind.noConfusion, Kind.noConfusion⟩
    | streamPort direction p =>
      cases direction <;> exact ⟨rfl, Kind.noConfusion, Kind.noConfusion⟩
    | _ => exact ⟨rfl, Kind.noConfusion, Kind.noConfusion⟩

/-- A kind is listed if it has a layout and there are descriptors of it. -/
theorem mem_descriptorCounts {t : Tally} {n : DescriptorCount} :
    n ∈ descriptorCounts t ↔
      ∃ k : Kind, k.hasLayout ∧ 0 < t.count k ∧ n = ⟨k.code, .ofNat (t.count k)⟩ := by
  have hall : ∀ k : Kind, k ∈ Kind.all := fun k => List.mem_of_getElem? k.all_getElem_code
  simp only [descriptorCounts, List.mem_map, List.mem_filter, hall, true_and, Bool.and_eq_true,
    decide_eq_true_eq, and_assoc]
  exact exists_congr fun k => and_congr_right fun _ => and_congr_right fun _ => eq_comm

/-! ## Looking up -/

/-- Where the descriptors have their places as indices, the one of an index is in this place. -/
theorem find?_eq_getElem? {ds : List Descriptor} (hfew : ds.length ≤ maxCount)
    (hindex : ∀ i (hi : i < ds.length), ds[i].index = .ofNat i) (index : UInt16) :
    ds.find? (·.index == index) = ds[index.toNat]? := by
  have hplace : ∀ i, i < ds.length → (UInt16.ofNat i = index ↔ i = index.toNat) := by
    intro i hi
    rw [← UInt16.toNat_inj, UInt16.toNat_ofNat', Nat.mod_eq_of_lt]
    rw [maxCount] at hfew
    omega
  by_cases hlt : index.toNat < ds.length
  · rw [List.getElem?_eq_getElem hlt, List.find?_eq_some_iff_getElem]
    refine ⟨?_, index.toNat, hlt, rfl, fun i hi => ?_⟩
    · rw [hindex _ hlt, beq_iff_eq]
      exact (hplace _ hlt).mpr rfl
    · have hilt : i < ds.length := Nat.lt_trans hi hlt
      rw [hindex i hilt, Bool.not_eq_true', beq_eq_false_iff_ne]
      exact fun heq => Nat.ne_of_lt hi ((hplace i hilt).mp heq)
  · rw [List.getElem?_eq_none (Nat.le_of_not_lt hlt), List.find?_eq_none]
    intro d hd heq
    obtain ⟨i, hi, rfl⟩ := List.getElem_of_mem hd
    rw [hindex i hi, beq_iff_eq] at heq
    exact hlt ((hplace i hi).mp heq ▸ hi)

end Build

end AvbEntity

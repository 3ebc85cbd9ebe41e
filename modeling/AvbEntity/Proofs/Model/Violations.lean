import AvbEntity.Proofs.Descriptor.Violations
import AvbEntity.Proofs.Model.Built
import Mathlib.Data.List.Induction

/-!
# What building accepts

Building stops at the first thing that is wrong with a tree. Here everything that is wrong is
listed, in the order in which building looks: at the tree, at the texts of the ENTITY, and then at
one configuration after another. In a configuration every descriptor is looked at for its place and
its number before any is looked at for its limits, and the name of the configuration comes last.

## Main definitions

* `Tree.violations`: what is wrong with a tree, in order
* `Tree.Admissible`: the trees with which nothing is wrong

## Main results

* `Build.outcome_configuration`, `Model.outcome_build`: building is the demand that nothing be wrong
* `Tree.violations_eq_nil`: the trees without violations
* `Model.build_decides`: building accepts the admissible trees, and names the first violation of any
  other
-/

namespace AvbEntity

open Descriptor (textViolations)

/-! ## Outcomes -/

section

variable {ε ε' α β : Type}

/-- Whether there is a result, or which error there is. -/
def outcome (x : Except ε α) : Except ε Unit :=
  x.map fun _ => ()

theorem outcome_unit (x : Except ε Unit) : outcome x = x := by
  cases x <;> rfl

/-- The outcome of a step that has the same outcome for every result of the one before it. -/
theorem outcome_bind {x : Except ε α} {f : α → Except ε β} {y : Except ε Unit}
    (h : ∀ a, x = .ok a → outcome (f a) = y) :
    outcome (x >>= f) = outcome x >>= fun _ => y := by
  cases x with
  | error e => rfl
  | ok a => exact h a rfl

/-- The outcome of a step behind a requirement. -/
theorem outcome_bind_unit {x : Except ε Unit} {f : Unit → Except ε β} {y : Except ε Unit}
    (h : outcome (f ()) = y) : outcome (x >>= f) = x >>= fun _ => y := by
  cases x with
  | error e => rfl
  | ok a => exact h

theorem outcome_bind_pure {x : Except ε α} {f : α → β} :
    outcome (x >>= fun a => pure (f a)) = outcome x := by
  cases x <;> rfl

theorem outcome_mapM (f : α → Except ε β) (xs : List α) :
    outcome (xs.mapM f) = xs.forM fun x => outcome (f x) := by
  induction xs with
  | nil => rfl
  | cons x xs ih =>
    rw [List.mapM_cons]
    refine (outcome_bind (y := outcome (xs.mapM f)) fun y _ => ?_).trans ?_
    · exact outcome_bind_pure
    · rw [ih]
      rfl

end

/-! ## Violations -/

/-- Every member of a list, behind those before it. -/
def withBefore {α : Type} (xs : List α) : List (List α × α) :=
  xs.zipIdx.map fun p => (xs.take p.2, p.1)

theorem withBefore_concat {α : Type} (xs : List α) (x : α) :
    withBefore (xs ++ [x]) = withBefore xs ++ [(xs, x)] := by
  rw [withBefore, List.zipIdx_append, List.map_append, List.zipIdx_singleton, List.map_singleton,
    Nat.zero_add, List.take_left]
  refine congrArg (· ++ [(xs, x)]) (List.map_congr_left fun p hp => ?_)
  have hi : p.2 ≤ xs.length := Nat.le_of_lt (by simpa using List.snd_lt_of_mem_zipIdx hp)
  rw [List.take_append_of_le_length hi]

theorem forall_mem_withBefore {α : Type} {xs : List α} {P : α → Prop} :
    (∀ p ∈ withBefore xs, P p.2) ↔ ∀ x ∈ xs, P x := by
  have hmembers : (withBefore xs).map Prod.snd = xs := by
    rw [withBefore, List.map_map]
    exact List.zipIdx_map_fst 0 xs
  rw [← List.forall_mem_map (f := Prod.snd), hmembers]

namespace Tree

/-- What keeps a descriptor from having a place in a configuration. -/
def placeViolations (d : Descriptor) : List BuildError :=
  match d with
  | .entity _ | .numbered _ (.configuration _) => [.misplaced d.kind]
  | .numbered _ (.unsupported kind) => if kind.hasLayout then [.fieldless kind] else []
  | _ => []

/-- What keeps a descriptor from having an index behind others. -/
def indexViolations (position : Nat) (before : List Descriptor) (d : Descriptor) :
    List BuildError :=
  if Build.maxCount ≤ before.countP (·.kind == d.kind) then [.tooManyDescriptors d.kind position]
  else []

/-- The limits that a descriptor exceeds under the index that it has behind others. -/
def limitViolations (before : List Descriptor) (d : Descriptor) : List BuildError :=
  (d.renumber (.ofNat (before.countP (·.kind == d.kind)))).violations.map .limit

/-- What is wrong with a configuration at a position: with the places and the indices, then with the
limits, then with the name. -/
def Configuration.violations (position : Nat) (node : Configuration) : List BuildError :=
  ((withBefore node.descriptors).flatMap fun (before, d) =>
    placeViolations d ++ indexViolations position before d) ++
  (((withBefore node.descriptors).flatMap fun (before, d) => limitViolations before d) ++
  (textViolations [("object_name", node.objectName)]).map .limit)

/-- What is wrong with the number of configurations and the one in use. -/
def countViolations (tree : Tree) : List BuildError :=
  let count := tree.configurations.length
  let current := tree.entity.currentConfiguration
  (if count = 0 then [.noConfigurations] else []) ++
  ((if Build.maxCount < count then [.tooManyConfigurations count] else []) ++
  if count ≤ current.toNat then [.currentOutOfRange current count] else [])

/-- What is wrong with a tree, in the order in which it is looked at. -/
def violations (tree : Tree) : List BuildError :=
  tree.countViolations ++ ((textViolations tree.entity.texts).map .limit ++
  tree.configurations.zipIdx.flatMap fun (node, position) => node.violations position)

end Tree

/-! ## Building demands that nothing be wrong -/

namespace Build

open AvbEntity.Tree (placeViolations indexViolations limitViolations)

theorem checkPlace_eq_demand (d : Descriptor) : checkPlace d = demand (placeViolations d) := by
  cases d with
  | entity e => rfl
  | numbered index b =>
    cases b with
    | unsupported kind => exact (demand_ite _).symm
    | _ => rfl

/-- One more descriptor is counted if it has a place and an index. -/
theorem outcome_tallyOne {position : Nat} {ds : List Descriptor} {t : Tally}
    (ht : ∀ k, t.count k = ds.countP (·.kind == k)) (d : Descriptor) :
    outcome (tallyOne position t d) =
      demand (placeViolations d ++ indexViolations position ds d) := by
  rw [demand_append, ← checkPlace_eq_demand]
  refine outcome_bind_unit ?_
  rw [indexViolations, demand_ite, ht]
  by_cases hcount : ds.countP (·.kind == d.kind) < maxCount
  · rw [if_pos hcount, if_neg (Nat.not_le.mpr hcount)]
    rfl
  · rw [if_neg hcount, if_pos (Nat.le_of_not_lt hcount)]
    rfl

/-- Counting looks at one descriptor after another, behind those before it. -/
theorem outcome_tally (position : Nat) (ds : List Descriptor) :
    outcome (tally position ds) =
      demand ((withBefore ds).flatMap fun (before, d) =>
        placeViolations d ++ indexViolations position before d) := by
  induction ds using List.reverseRecOn with
  | nil => rfl
  | append_singleton ds d ih =>
    rw [tally, List.foldlM_append, withBefore_concat, List.flatMap_append, demand_append, ← ih,
      List.flatMap_singleton]
    refine outcome_bind fun t ht => ?_
    have hcounts : ∀ k, t.count k = ds.countP (·.kind == k) :=
      fun k => ((tally_eq_ok ht).2 k).1
    rw [List.foldlM_cons, ← outcome_tallyOne hcounts]
    cases tallyOne position t d <;> rfl

/-- The index of the last descriptor is the number of those of its kind before it. -/
theorem numberFrom_concat (t : Tally) (ds : List Descriptor) (d : Descriptor) :
    numberFrom t (ds ++ [d]) =
      numberFrom t ds ++
        [d.renumber (.ofNat (t.count d.kind + ds.countP (·.kind == d.kind)))] := by
  induction ds generalizing t with
  | nil => rfl
  | cons d₀ ds ih =>
    have hcount : (t.add d₀.kind).count d.kind + ds.countP (·.kind == d.kind) =
        t.count d.kind + (d₀ :: ds).countP (·.kind == d.kind) := by
      rw [Tally.count_add, List.countP_cons]
      by_cases hk : d₀.kind = d.kind
      · rw [if_pos hk, if_pos (beq_iff_eq.mpr hk)]
        omega
      · rw [if_neg hk, if_neg (beq_iff_eq.not.mpr hk)]
        omega
    rw [List.cons_append, numberFrom, ih, hcount]
    rfl

/-- Every descriptor is numbered by those of its kind before it. -/
theorem number_eq_map (ds : List Descriptor) :
    number ds = (withBefore ds).map fun (before, d) =>
      d.renumber (.ofNat (before.countP (·.kind == d.kind))) := by
  induction ds using List.reverseRecOn with
  | nil => rfl
  | append_singleton ds d ih =>
    rw [number_eq, numberFrom_concat, ← number_eq, ih, withBefore_concat, List.map_append,
      Tally.count_empty, Nat.zero_add]
    rfl

/-- What is filled in has no limits. -/
theorem violations_complete (mac : Mac) (strings : UInt16) (d : Descriptor) :
    (complete mac strings d).violations = d.violations := by
  unfold complete
  split
  next => rfl
  next => split <;> rfl
  next => rfl

/-- The descriptors are looked at in order, under the indices that they will have. -/
theorem forM_check (mac : Mac) (strings : UInt16) (ds : List Descriptor) :
    (((number ds).map (complete mac strings)).forM Descriptor.check).mapError .limit =
      demand ((withBefore ds).flatMap fun (before, d) => limitViolations before d) := by
  have hcheck : Descriptor.check = fun d => demand d.violations :=
    funext Descriptor.check_eq_demand
  rw [hcheck, ← demand_flatMap, ← demand_map, List.map_flatMap, List.flatMap_map, number_eq_map,
    List.flatMap_map]
  simp only [violations_complete, limitViolations]

/-- No CONFIGURATION is too long, as no more kinds are listed than there are. -/
theorem violations_summary (index : UInt16) (objectName : String) (localizedDescription : UInt16)
    (t : Tally) :
    (Descriptor.numbered index (.configuration
      { objectName, localizedDescription, descriptorCounts := descriptorCounts t })).violations =
      textViolations [("object_name", objectName)] := by
  have hkinds : (descriptorCounts t).length ≤ 38 := by
    rw [descriptorCounts, List.length_map]
    exact List.length_filter_le ..
  have hsize : ¬ Descriptor.maxLength < 74 + 4 * (descriptorCounts t).length := by
    rw [Descriptor.maxLength]
    omega
  rw [Descriptor.violations, Descriptor.sizeViolations, Descriptor.size, Descriptor.Body.size,
    if_neg hsize, List.append_nil]
  rfl

/-- A configuration is built if nothing is wrong with it. -/
theorem outcome_configuration (mac : Mac) (position : Nat) (node : Tree.Configuration) :
    outcome (configuration mac position node) = demand (node.violations position) := by
  rw [Tree.Configuration.violations, demand_append, ← outcome_tally, configuration]
  refine outcome_bind fun t _ => ?_
  rw [demand_append, ← forM_check mac (.ofNat (t.count .strings))]
  refine outcome_bind_unit ?_
  simp only [Descriptor.check_eq_demand, violations_summary, demand_map]
  exact outcome_bind_pure.trans (outcome_unit _)

theorem checkTree_eq_demand (tree : Tree) : checkTree tree = demand tree.countViolations := by
  simp only [checkTree, Tree.countViolations, demand_append, demand_ite]
  split
  · rfl
  · rw [bind_ok]
    split <;> rfl

end Build

/-- A model is built if nothing is wrong with the tree. -/
theorem Model.outcome_build (tree : Tree) (mac : Mac) :
    outcome (build tree mac) = demand tree.violations := by
  rw [Tree.violations, demand_append, ← Build.checkTree_eq_demand]
  refine outcome_bind_unit ?_
  rw [demand_append, demand_map, ← Descriptor.checkTexts_eq_demand]
  refine outcome_bind_unit ?_
  rw [outcome_bind_pure, Build.configurations, outcome_mapM, demand_flatMap]
  exact congrArg (tree.configurations.zipIdx.forM ·)
    (funext fun (node, position) => Build.outcome_configuration mac position node)

/-! ## Admissible trees -/

namespace Tree

/-- Nothing is wrong with the configuration. -/
structure Configuration.Admissible (node : Configuration) : Prop where
  name : node.objectName.utf8ByteSize ≤ Layout.textWidth
  placed : ∀ d ∈ node.descriptors, d.kind ≠ .entity ∧ d.kind ≠ .configuration
  /-- Only the kind is given of no descriptor whose layout is known. -/
  fields : ∀ index kind, .numbered index (.unsupported kind) ∈ node.descriptors →
    kind.hasLayout = false
  few : ∀ k, node.descriptors.countP (·.kind == k) ≤ Build.maxCount
  texts : ∀ d ∈ node.descriptors, ∀ t ∈ d.texts, t.2.utf8ByteSize ≤ Layout.textWidth
  strings : ∀ index s, .numbered index (.strings s) ∈ node.descriptors →
    s.strings.length ≤ Descriptor.Strings.capacity
  /-- The descriptors that end in arrays fit into a response. -/
  size : ∀ d ∈ node.descriptors, d.hasArrays → d.size ≤ Descriptor.maxLength

/-- Nothing is wrong with the tree. -/
structure Admissible (tree : Tree) : Prop where
  some : 1 ≤ tree.configurations.length
  few : tree.configurations.length ≤ Build.maxCount
  current : tree.entity.currentConfiguration.toNat < tree.configurations.length
  texts : ∀ t ∈ tree.entity.texts, t.2.utf8ByteSize ≤ Layout.textWidth
  configurations : ∀ node ∈ tree.configurations, node.Admissible

theorem ite_eq_nil {α : Type} {p : Prop} [Decidable p] {a : α} :
    (if p then [a] else []) = [] ↔ ¬p := by
  by_cases hp : p <;> simp [hp]

theorem placeViolations_eq_nil {d : Descriptor} :
    placeViolations d = [] ↔ (d.kind ≠ .entity ∧ d.kind ≠ .configuration) ∧
      ∀ index kind, d = .numbered index (.unsupported kind) → kind.hasLayout = false := by
  constructor
  · intro h
    have hplace : Build.checkPlace d = .ok () :=
      (Build.checkPlace_eq_demand d).trans (demand_eq_ok.mpr h)
    obtain ⟨hknown, hkind⟩ := Build.checkPlace_eq_ok hplace
    refine ⟨hkind, ?_⟩
    rintro index kind rfl
    exact hknown.symm
  · rintro ⟨⟨hentity, hconfiguration⟩, hfields⟩
    cases d with
    | entity e => exact absurd rfl hentity
    | numbered index b =>
      cases b with
      | configuration c => exact absurd rfl hconfiguration
      | unsupported kind =>
        rw [placeViolations, hfields index kind rfl]
        rfl
      | _ => rfl

/-- The indices suffice for every descriptor exactly if there are not too many of any kind. -/
theorem indexViolations_eq_nil {position : Nat} {ds : List Descriptor} :
    (∀ p ∈ withBefore ds, indexViolations position p.1 p.2 = []) ↔
      ∀ k, ds.countP (·.kind == k) ≤ Build.maxCount := by
  induction ds using List.reverseRecOn with
  | nil => exact iff_of_true (List.forall_mem_nil _) fun k => Nat.zero_le _
  | append_singleton ds d ih =>
    rw [withBefore_concat, List.forall_mem_append, List.forall_mem_singleton, ih,
      indexViolations, ite_eq_nil]
    simp only [List.countP_append, List.countP_singleton]
    constructor
    · rintro ⟨hbefore, hlast⟩ k
      have hk := hbefore k
      by_cases hkind : d.kind = k
      · subst hkind
        rw [if_pos (beq_self_eq_true _)]
        omega
      · rw [if_neg (beq_iff_eq.not.mpr hkind)]
        exact hk
    · intro h
      refine ⟨fun k => Nat.le_trans (Nat.le_add_right ..) (h k), fun hlast => ?_⟩
      have hk := h d.kind
      rw [if_pos (beq_self_eq_true _)] at hk
      omega

/-- The index does not matter for the limits, but for how they are reported. -/
theorem limitViolations_eq_nil {before : List Descriptor} {d : Descriptor} :
    limitViolations before d = [] ↔ d.Fits := by
  rw [limitViolations, List.map_eq_nil_iff, ← Descriptor.violations_eq_nil]
  cases d with
  | entity e => rfl
  | numbered index b =>
    simp only [Descriptor.violations, List.append_eq_nil_iff, Descriptor.sizeViolations,
      ite_eq_nil]
    cases b <;> rfl

/-- A descriptor keeps within its limits if its texts do, and what it holds of other parts. -/
theorem fits_iff {d : Descriptor} :
    d.Fits ↔ (∀ t ∈ d.texts, t.2.utf8ByteSize ≤ Layout.textWidth) ∧
      (∀ index s, d = .numbered index (.strings s) →
        s.strings.length ≤ Descriptor.Strings.capacity) ∧
      (d.hasArrays → d.size ≤ Descriptor.maxLength) := by
  constructor
  · exact fun h => ⟨h.texts, h.capacity, fun _ => d.length_encode ▸ h.length⟩
  · rintro ⟨htexts, hstrings, hsize⟩
    refine ⟨htexts, hstrings, ?_⟩
    rw [d.length_encode]
    cases harrays : d.hasArrays with
    | true => exact hsize harrays
    | false => exact Descriptor.size_le harrays

theorem Configuration.violations_eq_nil {position : Nat} {node : Configuration} :
    node.violations position = [] ↔ node.Admissible := by
  have hplaces : (∀ p ∈ withBefore node.descriptors,
      placeViolations p.2 ++ indexViolations position p.1 p.2 = []) ↔
      (∀ d ∈ node.descriptors, placeViolations d = []) ∧
        ∀ k, node.descriptors.countP (·.kind == k) ≤ Build.maxCount := by
    simp only [List.append_eq_nil_iff, forall_and]
    exact and_congr (forall_mem_withBefore (P := (placeViolations · = [])))
      indexViolations_eq_nil
  have hlimits : (∀ p ∈ withBefore node.descriptors, limitViolations p.1 p.2 = []) ↔
      ∀ d ∈ node.descriptors, d.Fits := by
    simp only [limitViolations_eq_nil]
    exact forall_mem_withBefore
  have hname : textViolations [("object_name", node.objectName)] = [] ↔
      node.objectName.utf8ByteSize ≤ Layout.textWidth :=
    Descriptor.textViolations_eq_nil.trans List.forall_mem_singleton
  rw [violations, List.append_eq_nil_iff, List.append_eq_nil_iff, List.flatMap_eq_nil_iff,
    List.flatMap_eq_nil_iff, List.map_eq_nil_iff, hplaces, hlimits, hname]
  simp only [placeViolations_eq_nil, fits_iff]
  constructor
  · rintro ⟨⟨hplaced, hfew⟩, hfits, hname⟩
    exact {
      name := hname
      placed := fun d hd => (hplaced d hd).1
      fields := fun index kind hd => (hplaced _ hd).2 index kind rfl
      few := hfew
      texts := fun d hd => (hfits d hd).1
      strings := fun index s hd => (hfits _ hd).2.1 index s rfl
      size := fun d hd => (hfits d hd).2.2 }
  · intro h
    refine ⟨⟨fun d hd => ⟨h.placed d hd, ?_⟩, h.few⟩, fun d hd => ⟨h.texts d hd, ?_, h.size d hd⟩,
      h.name⟩
    · rintro index kind rfl
      exact h.fields index kind hd
    · rintro index s rfl
      exact h.strings index s hd

theorem countViolations_eq_nil {tree : Tree} :
    tree.countViolations = [] ↔ 1 ≤ tree.configurations.length ∧
      tree.configurations.length ≤ Build.maxCount ∧
      tree.entity.currentConfiguration.toNat < tree.configurations.length := by
  simp only [countViolations, List.append_eq_nil_iff, ite_eq_nil, Nat.not_lt, Nat.not_le]
  exact and_congr_left' Nat.pos_iff_ne_zero.symm

theorem violations_eq_nil {tree : Tree} : tree.violations = [] ↔ tree.Admissible := by
  have hnodes : (∀ p ∈ tree.configurations.zipIdx, p.1.violations p.2 = []) ↔
      ∀ node ∈ tree.configurations, node.Admissible := by
    simp only [Configuration.violations_eq_nil]
    rw [← List.forall_mem_map (f := Prod.fst), List.zipIdx_map_fst]
  rw [violations, List.append_eq_nil_iff, List.append_eq_nil_iff, List.flatMap_eq_nil_iff,
    List.map_eq_nil_iff, countViolations_eq_nil, Descriptor.textViolations_eq_nil, hnodes]
  constructor
  · rintro ⟨⟨hsome, hfew, hcurrent⟩, htexts, hnodes⟩
    exact ⟨hsome, hfew, hcurrent, htexts, hnodes⟩
  · intro h
    exact ⟨⟨h.some, h.few, h.current⟩, h.texts, h.configurations⟩

end Tree

/-- **What building accepts**: exactly the admissible trees, whatever the address of the interface;
of every other tree the error is the first of its violations. -/
theorem Model.build_decides (tree : Tree) (mac : Mac) :
    ((∃ m, build tree mac = .ok m) ↔ tree.Admissible) ∧
      ∀ e, build tree mac = .error e ↔ tree.violations.head? = some e := by
  have houtcome := outcome_build tree mac
  constructor
  · rw [← Tree.violations_eq_nil, ← demand_eq_ok, ← houtcome]
    cases build tree mac <;> simp [outcome, Except.map]
  · intro e
    rw [← demand_eq_error, ← houtcome]
    cases build tree mac <;> simp [outcome, Except.map]

end AvbEntity

import AvbEntity.Proofs.Model.Build
import AvbEntity.Proofs.Model.Numbering
import Mathlib.Data.List.Forall2

/-!
# What a model that was built has of its tree

A tree of which a model can be built is in the model as it is: its configurations in order, in each
of them the descriptors of every kind in order under the indices from zero, and in front of them a
CONFIGURATION that lists how many there are. All of them keep within the limits of descriptors.

## Main definitions

* `Configuration.ofKind`: the descriptors of a kind, in order
* `Configuration.Built`: what building makes of a configuration of the tree
* `Model.Built`: what building makes of the tree

## Main results

* `Configuration.Built.find?_eq_getElem?`: a descriptor is found under its index
* `Model.Built.find?_configuration`: a CONFIGURATION is found under its position
* `Model.built_of_build`: this is what building makes of a tree
-/

namespace AvbEntity

/-- A step taken for every member of a list gives the list of what it gives for each. -/
theorem mapM_eq_ok {ε α β : Type} {f : α → Except ε β} {xs : List α} {ys : List β} :
    xs.mapM f = .ok ys ↔ List.Forall₂ (fun x y => f x = .ok y) xs ys := by
  induction xs generalizing ys with
  | nil =>
    rw [List.mapM_nil, List.forall₂_nil_left_iff]
    exact ⟨fun h => (Except.ok.inj h).symm, fun h => h ▸ rfl⟩
  | cons x xs ih =>
    rw [List.mapM_cons, List.forall₂_cons_left_iff]
    simp only [bind_eq_ok, ih]
    constructor
    · rintro ⟨y, hy, zs, hzs, h⟩
      exact ⟨y, zs, hy, hzs, (Except.ok.inj h).symm⟩
    · rintro ⟨y, zs, hy, hzs, rfl⟩
      exact ⟨y, hy, zs, hzs, rfl⟩

namespace Build

section

variable {mac : Mac} {nodes : List Tree.Configuration} {built : List (Configuration × Tally)}
  (h : configurations mac nodes = .ok built)
include h

theorem length_of_configurations : built.length = nodes.length := by
  rw [← (mapM_eq_ok.mp h).length_eq, List.length_zipIdx]

/-- Each configuration of a tree is built at its position. -/
theorem getElem?_of_configurations {i : Nat} {node : Tree.Configuration}
    (hnode : nodes[i]? = some node) :
    ∃ c t, built[i]? = some (c, t) ∧ configuration mac i node = .ok (c, t) := by
  obtain ⟨hi, rfl⟩ := List.getElem?_eq_some_iff.mp hnode
  have hi' : i < built.length := length_of_configurations h ▸ hi
  have hone := (List.forall₂_iff_get.mp (mapM_eq_ok.mp h)).2 i (by rwa [List.length_zipIdx]) hi'
  simp only [List.get_eq_getElem, List.getElem_zipIdx, Nat.zero_add] at hone
  exact ⟨_, _, List.getElem?_eq_getElem hi', hone⟩

end

end Build

namespace Configuration

/-- The descriptors of a kind, in order. -/
def ofKind (c : Configuration) (k : Kind) : List Descriptor :=
  c.descriptors.filter (·.kind == k)

/-- What building makes of a configuration of the tree. -/
structure Built (mac : Mac) (position : UInt16) (node : Tree.Configuration) (c : Configuration) :
    Prop where
  /-- The CONFIGURATION has the position as its index. -/
  index : c.index = position
  /-- The descriptors of a kind are those of the tree, numbered and completed. -/
  ofKind : ∀ k, c.ofKind k =
    (node.descriptors.filter (·.kind == k)).zipIdx.map fun (d, i) =>
      Build.complete mac (.ofNat (node.descriptors.countP (·.kind == .strings)))
        (d.renumber (.ofNat i))
  few : ∀ k, node.descriptors.countP (·.kind == k) ≤ Build.maxCount
  /-- Those of the kinds with a layout can be served. -/
  known : ∀ d ∈ c.descriptors, d.isKnown = d.kind.hasLayout
  placed : ∀ d ∈ node.descriptors, d.kind ≠ .entity ∧ d.kind ≠ .configuration
  fits : ∀ d ∈ c.descriptors, d.Fits
  summary : (Descriptor.numbered position (.configuration c.summary)).Fits
  /-- The CONFIGURATION lists the kinds with a layout, if there are descriptors of them. -/
  lists : ∀ n, n ∈ c.summary.descriptorCounts ↔
    ∃ k : Kind, k.hasLayout ∧ 0 < node.descriptors.countP (·.kind == k) ∧
      n = ⟨k.code, .ofNat (node.descriptors.countP (·.kind == k))⟩

theorem ofKind_number (mac : Mac) (strings : UInt16) (ds : List Descriptor) (k : Kind) :
    ((Build.number ds).map (Build.complete mac strings)).filter (·.kind == k) =
      (ds.filter (·.kind == k)).zipIdx.map fun (d, i) =>
        Build.complete mac strings (d.renumber (.ofNat i)) := by
  rw [List.filter_map]
  have hkind : ((fun d : Descriptor => d.kind == k) ∘ Build.complete mac strings) =
      fun d => d.kind == k := by
    funext d
    simp
  rw [hkind, Build.filter_number, List.map_map]
  rfl

/-- Every descriptor of the configuration is one of the tree, numbered and completed. -/
theorem exists_of_mem_number {mac : Mac} {strings : UInt16} {ds : List Descriptor}
    {d : Descriptor} (hd : d ∈ (Build.number ds).map (Build.complete mac strings)) :
    ∃ d₀ ∈ ds, ∃ index, d = Build.complete mac strings (d₀.renumber index) := by
  have hkind : d ∈ ((Build.number ds).map (Build.complete mac strings)).filter
      (·.kind == d.kind) :=
    List.mem_filter.mpr ⟨hd, beq_self_eq_true _⟩
  rw [ofKind_number] at hkind
  obtain ⟨⟨d₀, i⟩, hmem, rfl⟩ := List.mem_map.mp hkind
  exact ⟨d₀, List.mem_of_mem_filter (List.fst_mem_of_mem_zipIdx hmem), _, rfl⟩

theorem built_of_build {mac : Mac} {position : Nat} {node : Tree.Configuration}
    {c : Configuration} {t : Tally} (h : Build.configuration mac position node = .ok (c, t)) :
    c.Built mac (.ofNat position) node := by
  obtain ⟨htally, hchecks, hsummary, rfl⟩ := Build.configuration_eq_ok.mp h
  obtain ⟨hplaces, hcounts⟩ := Build.tally_eq_ok htally
  have hcount : ∀ k, t.count k = node.descriptors.countP (·.kind == k) := fun k => (hcounts k).1
  constructor
  case index => rfl
  case ofKind =>
    intro k
    rw [← hcount]
    exact ofKind_number ..
  case few =>
    intro k
    exact hcount k ▸ (hcounts k).2
  case known =>
    intro d hd
    obtain ⟨d₀, hd₀, index, rfl⟩ := exists_of_mem_number hd
    simpa using (Build.checkPlace_eq_ok (hplaces d₀ hd₀)).1
  case placed =>
    intro d hd
    exact (Build.checkPlace_eq_ok (hplaces d hd)).2
  case fits =>
    intro d hd
    exact Descriptor.check_eq_ok.mp (hchecks d hd)
  case summary => exact Descriptor.check_eq_ok.mp hsummary
  case lists =>
    intro n
    simp only [Build.mem_descriptorCounts, hcount]

/-- Setting the streams back changes nothing else. -/
theorem Built.resetStreams {mac : Mac} {position : UInt16} {node : Tree.Configuration}
    {c : Configuration} (h : c.Built mac position node) : c.resetStreams.Built mac position node :=
  ⟨h.index, h.ofKind, h.few, h.known, h.placed, h.fits, h.summary, h.lists⟩

namespace Built

variable {mac : Mac} {position : UInt16} {node : Tree.Configuration} {c : Configuration}
  (h : c.Built mac position node)
include h

theorem length_ofKind (k : Kind) :
    (c.ofKind k).length = node.descriptors.countP (·.kind == k) := by
  rw [h.ofKind, List.length_map, List.length_zipIdx, List.countP_eq_length_filter]

/-- The descriptor of a kind at some place is the one of the tree with this index. -/
theorem getElem?_ofKind {k : Kind} {i : Nat} {d : Descriptor} (hd : (c.ofKind k)[i]? = some d) :
    ∃ d₀, (node.descriptors.filter (·.kind == k))[i]? = some d₀ ∧
      d = Build.complete mac (.ofNat (node.descriptors.countP (·.kind == .strings)))
        (d₀.renumber (.ofNat i)) := by
  rw [h.ofKind, List.getElem?_map, List.getElem?_zipIdx, Nat.zero_add] at hd
  obtain ⟨⟨d₀, j⟩, hd₀, rfl⟩ := Option.map_eq_some_iff.mp hd
  obtain ⟨d₁, hd₁, heq⟩ := Option.map_eq_some_iff.mp hd₀
  obtain ⟨rfl, rfl⟩ := Prod.mk.inj heq
  exact ⟨d₁, hd₁, rfl⟩

/-- A descriptor is found under its index, at its place among those of its kind. -/
theorem find?_eq_getElem? {k : Kind} (hk : k ≠ .entity) (i : UInt16) :
    (c.descriptors.find? fun d => d.kind == k && d.index == i) = (c.ofKind k)[i.toNat]? := by
  have hfew : (c.ofKind k).length ≤ Build.maxCount := h.length_ofKind k ▸ h.few k
  have hfilter : (c.descriptors.find? fun d => d.kind == k && d.index == i) =
      (c.ofKind k).find? (·.index == i) := by
    rw [Configuration.ofKind, List.find?_filter]
    simp only [Bool.decide_and, Bool.decide_eq_true]
  rw [hfilter]
  refine Build.find?_eq_getElem? hfew (fun j hj => ?_) i
  obtain ⟨d₀, hd₀, hd⟩ := h.getElem?_ofKind (List.getElem?_eq_getElem hj)
  have hkind : d₀.kind = k := by
    simpa using (List.mem_filter.mp (List.mem_of_getElem? hd₀)).2
  rw [hd, Build.index_complete, Build.index_renumber (hkind ▸ hk)]

/-- What is found under an index has the kind and the index that were asked for, and can be served
if the kind has a layout. -/
theorem of_getElem? {k : Kind} (hk : k ≠ .entity) {i : UInt16} {d : Descriptor}
    (hd : (c.ofKind k)[i.toNat]? = some d) :
    d.kind = k ∧ d.index = i ∧ d.isKnown = k.hasLayout ∧ d.Fits := by
  have hmem : d ∈ c.descriptors := List.mem_of_mem_filter (List.mem_of_getElem? hd)
  have hfound := h.find?_eq_getElem? hk i
  rw [hd] at hfound
  have hasked := List.find?_some hfound
  rw [Bool.and_eq_true, beq_iff_eq, beq_iff_eq] at hasked
  obtain ⟨rfl, hindex⟩ := hasked
  exact ⟨rfl, hindex, h.known d hmem, h.fits d hmem⟩

/-- There is no descriptor of a kind with a layout that is not listed. -/
theorem countP_eq_zero {k : Kind} (hk : k.hasLayout)
    (hlist : ∀ n ∈ c.summary.descriptorCounts, n.descriptorType ≠ k.code) :
    node.descriptors.countP (·.kind == k) = 0 := by
  by_contra hcount
  exact hlist _ ((h.lists _).mpr ⟨k, hk, Nat.pos_of_ne_zero hcount, rfl⟩) rfl

/-- A kind that is listed is neither that of the ENTITY nor that of the CONFIGURATION. -/
theorem exists_of_mem {n : Descriptor.DescriptorCount} (hn : n ∈ c.summary.descriptorCounts) :
    ∃ k : Kind, k.code = n.descriptorType ∧ k.hasLayout ∧ k ≠ .entity ∧ k ≠ .configuration ∧
      n.count.toNat = node.descriptors.countP (·.kind == k) := by
  obtain ⟨k, hlayout, hpos, rfl⟩ := (h.lists n).mp hn
  obtain ⟨d, hd, hkind⟩ := List.countP_pos_iff.mp hpos
  obtain ⟨hentity, hconfiguration⟩ := h.placed d hd
  rw [beq_iff_eq] at hkind
  have hfew := h.few k
  rw [Build.maxCount] at hfew
  refine ⟨k, rfl, hlayout, hkind ▸ hentity, hkind ▸ hconfiguration, ?_⟩
  rw [UInt16.toNat_ofNat', Nat.mod_eq_of_lt (by omega)]

end Built

end Configuration

namespace Model

/-- What building makes of a tree. -/
structure Built (tree : Tree) (mac : Mac) (m : Model) : Prop where
  count : m.entity.configurationsCount.toNat = tree.configurations.length
  entity : (Descriptor.entity m.entity).Fits
  /-- There are as many configurations as in the tree, each built from its own. -/
  configuration? : ∀ (i : UInt16) node, tree.configurations[i.toNat]? = some node →
    ∃ c, m.configuration? i = some c ∧ c.Built mac i node
  none : ∀ i : UInt16, tree.configurations.length ≤ i.toNat → m.configuration? i = .none

/-- A configuration that is there was built from one of the tree's. -/
theorem Built.exists_built {tree : Tree} {mac : Mac} {m : Model} (h : m.Built tree mac)
    {p : UInt16} {c : Configuration} (hc : m.configuration? p = some c) :
    ∃ node, c.Built mac p node := by
  have hlt : p.toNat < tree.configurations.length := by
    by_contra hle
    rw [h.none p (Nat.le_of_not_lt hle)] at hc
    cases hc
  obtain ⟨c', hc', hbuilt⟩ := h.configuration? p _ (List.getElem?_eq_getElem hlt)
  obtain rfl := Option.some.inj (hc.symm.trans hc')
  exact ⟨_, hbuilt⟩

/-- A CONFIGURATION is found under its position, which is its index. -/
theorem Built.find?_configuration {tree : Tree} {mac : Mac} {m : Model} (h : m.Built tree mac)
    {p : UInt16} {configuration : Configuration} (hp : m.configuration? p = some configuration)
    (c : UInt16) :
    m.find? c .configuration p = some (.numbered p (.configuration configuration.summary)) := by
  obtain ⟨node, hbuilt⟩ := h.exists_built hp
  rw [find?, hp, Option.map_some, hbuilt.index]

/-- The configurations can be numbered, and the one in use is among them. -/
theorem checkTree_eq_ok {tree : Tree} (h : Build.checkTree tree = .ok ()) :
    tree.configurations.length ≤ Build.maxCount ∧
      tree.entity.currentConfiguration.toNat < tree.configurations.length := by
  unfold Build.checkTree at h
  simp only at h
  split at h
  next => cases h
  next =>
    split at h
    next => cases h
    next hmax =>
      split at h
      next => cases h
      next hlt => exact ⟨Nat.le_of_not_lt hmax, Nat.lt_of_not_le hlt⟩

/-- The ENTITY keeps within its limits, whatever is filled in. -/
theorem entity_fits {e e' : Descriptor.Entity} (h : e.check = .ok ()) (he : e'.texts = e.texts) :
    (Descriptor.entity e').Fits where
  texts := by
    show ∀ t ∈ e'.texts, _
    rw [he]
    exact Descriptor.checkTexts_eq_ok.mp h
  capacity index s hs := Descriptor.noConfusion hs
  length := by
    rw [Descriptor.encode, List.length_append, Layout.length_write, Layout.length_write]
    decide

theorem built_of_build {tree : Tree} {mac : Mac} {m : Model} (h : build tree mac = .ok m) :
    m.Built tree mac := by
  obtain ⟨htree, hentity, built, hconfigurations, rfl⟩ := build_eq_ok.mp h
  obtain ⟨hmax, -⟩ := checkTree_eq_ok htree
  constructor
  case count =>
    show (UInt16.ofNat tree.configurations.length).toNat = _
    rw [UInt16.toNat_ofNat', Nat.mod_eq_of_lt]
    rw [Build.maxCount] at hmax
    omega
  case entity => exact entity_fits hentity rfl
  case configuration? =>
    intro i node hnode
    obtain ⟨c, t, hc, hone⟩ := Build.getElem?_of_configurations hconfigurations hnode
    have hbuilt := Configuration.built_of_build hone
    rw [UInt16.ofNat_toNat] at hbuilt
    refine ⟨c.resetStreams, ?_, hbuilt.resetStreams⟩
    rw [configuration?_resetStreams, configuration?, List.getElem?_map, hc]
    rfl
  case none =>
    intro i hi
    have hlength := Build.length_of_configurations hconfigurations
    rw [configuration?_resetStreams, configuration?, List.getElem?_map,
      List.getElem?_eq_none (hlength ▸ hi)]
    rfl

end Model

end AvbEntity

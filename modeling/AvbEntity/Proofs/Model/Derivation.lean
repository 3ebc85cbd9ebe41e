import AvbEntity.Proofs.Model.Built

/-!
# What is derived of a tree

A model has everything that its tree has, in the same order. What building adds is said here field
by field: the indices, the fields that depend on the interface or on the number of other
descriptors, the counts of the ENTITY and of each CONFIGURATION, and the streams.

## Main definitions

* `Descriptor.Derives`: what becomes of a descriptor of a configuration
* `Configuration.Derived`, `Model.Derived`: what becomes of a configuration and of the whole tree

## Main results

* `Build.forall₂_number`: the descriptors keep their order
* `Configuration.Built.map_index`: the indices of a kind count from zero
* `Configuration.count_of_configuration`: the descriptors of the tree are counted as they are served
* `Model.derived_of_build`: this is what building derives of a tree
-/

namespace AvbEntity

/-- What becomes of a descriptor of a configuration, where `strings` is the number of STRINGS beside
it: it gets an index. Only an AVB_INTERFACE and a LOCALE that counts no STRINGS change otherwise. -/
inductive Descriptor.Derives (mac : Mac) (strings : UInt16) : Descriptor → Descriptor → Prop
  | avbInterface (i₀ i : UInt16) (a : Descriptor.AvbInterface) :
    Derives mac strings (.numbered i₀ (.avbInterface a))
      (.numbered i (.avbInterface { a with macAddress := mac }))
  | locale (i₀ i : UInt16) (l : Descriptor.Locale) (hnone : l.numberOfStrings = 0) :
    Derives mac strings (.numbered i₀ (.locale l))
      (.numbered i (.locale { l with numberOfStrings := strings }))
  | other (i₀ i : UInt16) (b : Descriptor.Body) (hinterface : ∀ a, b ≠ .avbInterface a)
    (hlocale : ∀ l, b = .locale l → l.numberOfStrings ≠ 0) :
    Derives mac strings (.numbered i₀ b) (.numbered i b)

theorem Descriptor.Derives.kind_eq {mac : Mac} {strings : UInt16} {d₀ d : Descriptor}
    (h : Derives mac strings d₀ d) : d.kind = d₀.kind := by
  cases h <;> rfl

namespace Build

variable {mac : Mac} {strings : UInt16}

/-- Numbering and completing derives a descriptor. -/
theorem derives_complete {d : Descriptor} (hd : d.kind ≠ .entity) (index : UInt16) :
    d.Derives mac strings (complete mac strings (d.renumber index)) := by
  cases d with
  | entity e => exact absurd rfl hd
  | numbered i₀ b =>
    cases b with
    | avbInterface a => exact .avbInterface i₀ index a
    | locale l =>
      rw [Descriptor.renumber, complete]
      split
      next hnone => exact .locale i₀ index l hnone
      next hsome =>
        refine .other i₀ index _ (fun a => Descriptor.Body.noConfusion) fun l' hl' => ?_
        exact Descriptor.Body.locale.inj hl' ▸ hsome
    | _ =>
      exact .other i₀ index _ (fun a => Descriptor.Body.noConfusion)
        fun l => Descriptor.Body.noConfusion

theorem forall₂_numberFrom (t : Tally) {ds : List Descriptor} (hds : ∀ d ∈ ds, d.kind ≠ .entity) :
    List.Forall₂ (Descriptor.Derives mac strings) ds
      ((numberFrom t ds).map (complete mac strings)) := by
  induction ds generalizing t with
  | nil => exact .nil
  | cons d ds ih =>
    obtain ⟨hd, hds⟩ := List.forall_mem_cons.mp hds
    exact .cons (derives_complete hd _) (ih _ hds)

/-- The descriptors keep their order. -/
theorem forall₂_number {ds : List Descriptor} (hds : ∀ d ∈ ds, d.kind ≠ .entity) :
    List.Forall₂ (Descriptor.Derives mac strings) ds
      ((number ds).map (complete mac strings)) := by
  rw [number_eq]
  exact forall₂_numberFrom _ hds

/-- The kinds are listed in the order of their codes. -/
theorem pairwise_descriptorCounts (t : Tally) :
    (descriptorCounts t).Pairwise (·.descriptorType < ·.descriptorType) := by
  have hall : Kind.all.Pairwise (·.code < ·.code) := by decide
  exact List.pairwise_map.mpr (hall.filter _)

end Build

namespace Configuration

/-- What becomes of a configuration of the tree. -/
structure Derived (mac : Mac) (node : Tree.Configuration) (c : Configuration) : Prop where
  /-- Its descriptors are those of the tree in their order. -/
  descriptors : List.Forall₂ (Descriptor.Derives mac (c.count .strings))
    node.descriptors c.descriptors
  kinds : node.descriptors.map (·.kind) = c.descriptors.map (·.kind)
  /-- The indices of a kind are zero, one, two and so on, in the order of the list. -/
  indices : ∀ k, (c.ofKind k).map (·.index.toNat) = List.range (c.count k).toNat
  /-- There are no more of a kind than 16 bits can count. -/
  count : ∀ k, (c.count k).toNat = c.descriptors.countP (·.kind == k)
  objectName : c.summary.objectName = node.objectName
  localizedDescription : c.summary.localizedDescription = node.localizedDescription
  /-- The kinds with a layout that are present are listed with their counts, in the order of their
  codes. -/
  ascending : c.summary.descriptorCounts.Pairwise (·.descriptorType < ·.descriptorType)
  lists : ∀ n, n ∈ c.summary.descriptorCounts ↔
    ∃ k : Kind, k.hasLayout ∧ c.count k ≠ 0 ∧ n = ⟨k.code, c.count k⟩
  /-- Every stream has its number, and was never connected. -/
  sinks : c.sinks = (List.range (c.count .streamInput).toNat).map fun i => .fresh (.ofNat i)
  sources : c.sources = (List.range (c.count .streamOutput).toNat).map fun i => .fresh (.ofNat i)

namespace Built

variable {mac : Mac} {position : UInt16} {node : Tree.Configuration} {c : Configuration}
  (h : c.Built mac position node)
include h

theorem count_eq (k : Kind) : c.count k = .ofNat (node.descriptors.countP (·.kind == k)) := by
  rw [Configuration.count, ← h.length_ofKind k, Configuration.ofKind, List.countP_eq_length_filter]

/-- The count of a kind is true. -/
theorem toNat_count (k : Kind) : (c.count k).toNat = (c.ofKind k).length := by
  have hfew := h.few k
  rw [Build.maxCount] at hfew
  rw [h.count_eq, UInt16.toNat_ofNat', Nat.mod_eq_of_lt (by omega), h.length_ofKind]

/-- The indices of a kind count from zero. -/
theorem map_index (k : Kind) :
    (c.ofKind k).map (·.index.toNat) = List.range (c.count k).toNat := by
  have hlength := h.toNat_count k
  refine List.ext_getElem (by rw [List.length_map, List.length_range, hlength]) fun i hi hi' => ?_
  rw [List.length_map] at hi
  obtain ⟨d₀, hd₀, hd⟩ := h.getElem?_ofKind (List.getElem?_eq_getElem hi)
  obtain ⟨hmem, hkind⟩ := List.mem_filter.mp (List.mem_of_getElem? hd₀)
  have hentity : d₀.kind ≠ .entity := (h.placed d₀ hmem).1
  have hlt := (c.count k).toNat_lt
  rw [List.getElem_map, hd, Build.index_complete, Build.index_renumber hentity,
    UInt16.toNat_ofNat', List.getElem_range, Nat.mod_eq_of_lt (by omega)]

end Built

section

variable {mac : Mac} {position : Nat} {node : Tree.Configuration} {c : Configuration} {t : Tally}
  (h : Build.configuration mac position node = .ok (c, t))
include h

/-- The descriptors of the tree were counted as they are in the configuration. -/
theorem count_of_configuration (k : Kind) : c.count k = .ofNat (t.count k) := by
  obtain ⟨htally, -⟩ := Build.configuration_eq_ok.mp h
  rw [(built_of_build h).count_eq, ((Build.tally_eq_ok htally).2 k).1]

/-- Before the streams are set up, a configuration has everything else. -/
theorem derived_of_configuration : c.resetStreams.Derived mac node := by
  have hbuilt := built_of_build h
  have hbuilt' : c.resetStreams.Built mac (.ofNat position) node := hbuilt.resetStreams
  obtain ⟨-, -, -, hc⟩ := Build.configuration_eq_ok.mp h
  have hsummary := congrArg (·.summary) hc
  have hderives : List.Forall₂ (Descriptor.Derives mac (c.count .strings)) node.descriptors
      c.descriptors := by
    rw [congrArg (·.descriptors) hc, count_of_configuration h]
    exact Build.forall₂_number fun d hd => (hbuilt.placed d hd).1
  constructor
  case descriptors => exact hderives
  case kinds =>
    rw [← List.forall₂_eq_eq_eq, List.forall₂_map_left_iff, List.forall₂_map_right_iff]
    exact hderives.imp fun d₀ d hd => hd.kind_eq.symm
  case indices => exact hbuilt'.map_index
  case count =>
    intro k
    rw [hbuilt'.toNat_count, List.countP_eq_length_filter, ofKind]
  case objectName =>
    exact congrArg (·.objectName) hsummary
  case localizedDescription =>
    exact congrArg (·.localizedDescription) hsummary
  case ascending =>
    show c.summary.descriptorCounts.Pairwise _
    rw [hsummary]
    exact Build.pairwise_descriptorCounts t
  case lists =>
    intro n
    refine (hbuilt.lists n).trans (exists_congr fun k => and_congr_right fun _ => ?_)
    have htrue := hbuilt.toNat_count k
    have hpos : 0 < node.descriptors.countP (·.kind == k) ↔ c.count k ≠ 0 := by
      rw [← hbuilt.length_ofKind, ← htrue, Nat.pos_iff_ne_zero, ← UInt16.toNat_zero, ne_eq,
        UInt16.toNat_inj]
    show _ ↔ c.count k ≠ 0 ∧ n = ⟨k.code, c.count k⟩
    rw [hpos, hbuilt.count_eq]
  case sinks => rfl
  case sources => rfl

end

end Configuration

namespace Model

/-- What becomes of a tree. -/
structure Derived (tree : Tree) (mac : Mac) (m : Model) : Prop where
  /-- There is a configuration for each of the tree's, in their order. -/
  configurations : List.Forall₂ (Configuration.Derived mac) tree.configurations m.configurations
  /-- The CONFIGURATION at a position has it as its index. -/
  configuration : ∀ (c p : UInt16) configuration, m.configuration? p = some configuration →
    m.find? c .configuration p = some (.numbered p (.configuration configuration.summary))
  count : m.entity.configurationsCount.toNat = tree.configurations.length
  /-- The ENTITY is the tree's, but for its identifier if there is none, and for its counts. -/
  entity : ∃ configuration, m.configuration? tree.entity.currentConfiguration =
      some configuration ∧ m.entity =
    { tree.entity with
      entityId := if tree.entity.entityId.isZero then .ofMac mac else tree.entity.entityId
      configurationsCount := m.entity.configurationsCount
      talkerStreamSources := configuration.count .streamOutput
      listenerStreamSinks := configuration.count .streamInput }

/-- The configuration in use is there, and the ENTITY counts its streams. -/
theorem entity_of_build {tree : Tree} {mac : Mac} {m : Model} (h : build tree mac = .ok m) :
    ∃ configuration, m.configuration? tree.entity.currentConfiguration = some configuration ∧
      m.entity = { tree.entity with
        entityId := if tree.entity.entityId.isZero then .ofMac mac else tree.entity.entityId
        configurationsCount := m.entity.configurationsCount
        talkerStreamSources := configuration.count .streamOutput
        listenerStreamSinks := configuration.count .streamInput } := by
  obtain ⟨htree, -, built, hbuilt, rfl⟩ := build_eq_ok.mp h
  have hnode := List.getElem?_eq_getElem (checkTree_eq_ok htree).2
  obtain ⟨c, t, hcurrent, hone⟩ := Build.getElem?_of_configurations hbuilt hnode
  refine ⟨c.resetStreams, ?_, ?_⟩
  · rw [configuration?_resetStreams, configuration?, List.getElem?_map, hcurrent]
    rfl
  · have hcount : ∀ k, c.resetStreams.count k = .ofNat (t.count k) := by
      intro k
      show c.count k = _
      exact Configuration.count_of_configuration hone k
    show Build.entity mac tree (built.map (·.2)) = _
    rw [Build.entity, List.getElem?_map, hcurrent, hcount, hcount]
    rfl

/-- **What building derives of a tree**: its configurations and its ENTITY, with everything that
they have, and nothing but what depends on the interface or on the other descriptors added. -/
theorem derived_of_build {tree : Tree} {mac : Mac} {m : Model} (h : build tree mac = .ok m) :
    m.Derived tree mac := by
  have hbuilt := built_of_build h
  have hentity := entity_of_build h
  obtain ⟨-, -, built, hconfigurations, rfl⟩ := build_eq_ok.mp h
  constructor
  case configurations =>
    rw [← List.zipIdx_map_fst 0 tree.configurations]
    apply List.forall₂_map_left_iff.mpr
    apply List.forall₂_map_right_iff.mpr
    apply List.forall₂_map_right_iff.mpr
    apply (mapM_eq_ok.mp hconfigurations).imp
    rintro ⟨node, position⟩ ⟨c, t⟩ hone
    exact Configuration.derived_of_configuration hone
  case configuration =>
    intro c p configuration hp
    exact hbuilt.find?_configuration hp c
  case count => exact hbuilt.count
  case entity => exact hentity

end Model

/-- Kinds by turns, in the second of two configurations, which is the one in use. -/
def Tree.studio : Tree where
  entity := { currentConfiguration := 1 }
  configurations := [
    {},
    { descriptors := [.numbered 9 (.strings {}), .numbered 0 (.stream .output {}),
        .numbered 5 (.locale {}), .numbered 0 (.strings {}), .numbered 0 (.stream .output {}),
        .numbered 7 (.avbInterface {})] }]

/-- In this tree two stream outputs and two STRINGS are numbered, and the LOCALE counts them. -/
theorem Model.derived_studio :
    ∃ m, build .studio .duplex = .ok m ∧ m.Derived .studio .duplex ∧
      m.entity.talkerStreamSources = 2 ∧ m.configurations.map (·.descriptors) = [[],
        [.numbered 0 (.strings {}), .numbered 0 (.stream .output {}),
          .numbered 0 (.locale { numberOfStrings := 2 }), .numbered 1 (.strings {}),
          .numbered 1 (.stream .output {}),
          .numbered 0 (.avbInterface { macAddress := .duplex })]] := by
  have hsome : (build .studio .duplex).toOption.isSome := by decide +kernel
  obtain ⟨m, hm⟩ := Option.isSome_iff_exists.mp hsome
  have hbuild : build .studio .duplex = .ok m := toOption_eq_some.mp hm
  have hfields : (build .studio .duplex).toOption.map (fun m =>
      (m.entity.talkerStreamSources, m.configurations.map (·.descriptors))) =
      some (2, [[], [.numbered 0 (.strings {}), .numbered 0 (.stream .output {}),
        .numbered 0 (.locale { numberOfStrings := 2 }), .numbered 1 (.strings {}),
        .numbered 1 (.stream .output {}),
        .numbered 0 (.avbInterface { macAddress := .duplex })]]) := by decide +kernel
  rw [hm, Option.map_some, Option.some.injEq, Prod.mk.injEq] at hfields
  exact ⟨m, hbuild, derived_of_build hbuild, hfields.1, hfields.2⟩

end AvbEntity

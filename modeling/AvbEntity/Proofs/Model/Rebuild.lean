import AvbEntity.Proofs.Model.Derivation

/-!
# Building what was built

A model can be read back as a tree. Building this tree on the same interface gives the model again:
all that building derives was derived before, and a second derivation finds nothing to change.

## Main definitions

* `Configuration.toTree`, `Model.toTree`: the tree that is read back

## Main results

* `Build.foldlM_tallyOne_served`, `Build.numberFrom_served`: served descriptors are counted and
  numbered as those that they were made of
* `Build.configuration_toTree`, `Build.entity_of_entity`: what is derived once stays as it is
* `Model.build_toTree`: building a model's tree gives the model
-/

namespace AvbEntity

/-- A configuration as it stands in a tree. -/
def Configuration.toTree (c : Configuration) : Tree.Configuration where
  objectName := c.summary.objectName
  localizedDescription := c.summary.localizedDescription
  descriptors := c.descriptors

/-- The tree with the ENTITY and the configurations of a model. -/
def Model.toTree (m : Model) : Tree where
  entity := m.entity
  configurations := m.configurations.map (·.toTree)

@[simp] theorem Descriptor.renumber_renumber (i j : UInt16) (d : Descriptor) :
    (d.renumber i).renumber j = d.renumber j := by
  cases d <;> rfl

namespace Build

/-! ## Descriptors -/

section

variable (mac : Mac) (strings : UInt16)

@[simp] theorem renumber_complete (index : UInt16) (d : Descriptor) :
    (complete mac strings d).renumber index = complete mac strings (d.renumber index) := by
  cases d with
  | entity e => rfl
  | numbered i b =>
    cases b with
    | locale l =>
      by_cases hnone : l.numberOfStrings = 0 <;> simp [complete, Descriptor.renumber, hnone]
    | _ => rfl

/-- Nothing is left to be filled in. A LOCALE that still counts no STRINGS has none beside it. -/
@[simp] theorem complete_complete (d : Descriptor) :
    complete mac strings (complete mac strings d) = complete mac strings d := by
  cases d with
  | entity e => rfl
  | numbered i b =>
    cases b with
    | locale l =>
      by_cases hnone : l.numberOfStrings = 0
      · by_cases hstrings : strings = 0 <;> simp [complete, hnone, hstrings]
      · simp [complete, hnone]
    | _ => rfl

@[simp] theorem checkPlace_renumber (index : UInt16) (d : Descriptor) :
    checkPlace (d.renumber index) = checkPlace d := by
  cases d with
  | entity e => rfl
  | numbered i b => cases b <;> rfl

@[simp] theorem checkPlace_complete (d : Descriptor) :
    checkPlace (complete mac strings d) = checkPlace d := by
  unfold complete
  split
  next => rfl
  next => split <;> rfl
  next => rfl

/-- Served descriptors are counted as those that they were made of. -/
theorem foldlM_tallyOne_served (position : Nat) (counted t : Tally) (ds : List Descriptor) :
    ((numberFrom t ds).map (complete mac strings)).foldlM (tallyOne position) counted =
      ds.foldlM (tallyOne position) counted := by
  have hone : ∀ (t : Tally) (index : UInt16) (d : Descriptor),
      tallyOne position t (complete mac strings (d.renumber index)) = tallyOne position t d := by
    intro t index d
    simp only [tallyOne, checkPlace_complete, checkPlace_renumber, kind_complete, kind_renumber]
  induction ds generalizing counted t with
  | nil => rfl
  | cons d ds ih =>
    rw [numberFrom, List.map_cons, List.foldlM_cons, List.foldlM_cons, hone]
    exact congrArg _ (funext fun counted => ih counted _)

/-- Served descriptors are served as they are. -/
theorem numberFrom_served (t : Tally) (ds : List Descriptor) :
    (numberFrom t ((numberFrom t ds).map (complete mac strings))).map (complete mac strings) =
      (numberFrom t ds).map (complete mac strings) := by
  induction ds generalizing t with
  | nil => rfl
  | cons d ds ih =>
    -- the kind does not change, so that the same index is given again
    simp only [numberFrom, List.map_cons, kind_complete, kind_renumber, renumber_complete,
      Descriptor.renumber_renumber, complete_complete, ih]

end

/-! ## Configurations and the ENTITY -/

/-- A configuration that was built is built of its own tree. -/
theorem configuration_toTree {mac : Mac} {position : Nat} {node : Tree.Configuration}
    {c : Configuration} {t : Tally} (h : configuration mac position node = .ok (c, t)) :
    configuration mac position c.toTree = .ok (c, t) := by
  obtain ⟨htally, hchecks, hsummary, rfl⟩ := configuration_eq_ok.mp h
  refine configuration_eq_ok.mpr ⟨?_, hchecks, hsummary, ?_⟩
  · rw [number_eq]
    exact (foldlM_tallyOne_served mac _ position .empty .empty node.descriptors).trans htally
  · simp only [number_eq, Configuration.toTree, numberFrom_served]

theorem configurations_toTree {mac : Mac} {nodes : List Tree.Configuration}
    {built : List (Configuration × Tally)} (h : configurations mac nodes = .ok built) :
    configurations mac (built.map (·.1.toTree)) = .ok built := by
  have hlength := length_of_configurations h
  refine mapM_eq_ok.mpr (List.forall₂_iff_get.mpr ⟨?_, fun i hi hi' => ?_⟩)
  · rw [List.length_zipIdx, List.length_map]
  · have hnode := List.getElem?_eq_getElem (hlength ▸ hi')
    obtain ⟨c, t, hc, hone⟩ := getElem?_of_configurations h hnode
    obtain ⟨_, hget⟩ := List.getElem?_eq_some_iff.mp hc
    simp only [List.get_eq_getElem, List.getElem_zipIdx, List.getElem_map, Nat.zero_add, hget]
    exact configuration_toTree hone

/-- The ENTITY has its identifier, and nothing else that is derived depends on what was there. -/
theorem entity_of_entity {mac : Mac} {tree tree' : Tree} {ts : List Tally}
    (hentity : tree'.entity = entity mac tree ts)
    (hlength : tree'.configurations.length = tree.configurations.length) :
    entity mac tree' ts = entity mac tree ts := by
  by_cases hid : tree.entity.entityId.isZero <;> simp [entity, hentity, hlength, hid]

/-- Whether the configurations can be numbered depends on their number and the one in use. -/
theorem checkTree_congr {tree tree' : Tree}
    (hlength : tree'.configurations.length = tree.configurations.length)
    (hcurrent : tree'.entity.currentConfiguration = tree.entity.currentConfiguration) :
    checkTree tree' = checkTree tree := by
  simp only [checkTree, hlength, hcurrent]

end Build

theorem Model.toTree_resetStreams (m : Model) : m.resetStreams.toTree = m.toTree := by
  simp only [toTree, resetStreams, List.map_map]
  rfl

/-- **Building is idempotent**: the tree that is read back from a built model is a tree of the same
model. -/
theorem Model.build_toTree {tree : Tree} {mac : Mac} {m : Model} (h : build tree mac = .ok m) :
    build m.toTree mac = .ok m := by
  obtain ⟨htree, hentity, built, hbuilt, rfl⟩ := build_eq_ok.mp h
  rw [toTree_resetStreams]
  have hlength : (built.map fun b => b.1.toTree).length = tree.configurations.length := by
    rw [List.length_map, Build.length_of_configurations hbuilt]
  rw [toTree, List.map_map]
  refine build_eq_ok.mpr ⟨?_, hentity, built, Build.configurations_toTree hbuilt, ?_⟩
  · rw [← htree]
    exact Build.checkTree_congr hlength rfl
  · exact congrArg (resetStreams ⟨·, _⟩) (Build.entity_of_entity rfl hlength).symm

/-- The tree of the studio is not yet what is read back of its model, but that one is. -/
theorem Model.build_toTree_studio :
    ∃ m, build .studio .duplex = .ok m ∧ m.toTree ≠ .studio ∧ build m.toTree .duplex = .ok m := by
  have hchanged : (build .studio .duplex).toOption.any fun m => m.toTree ≠ .studio := by
    decide +kernel
  obtain ⟨m, hm, hne⟩ := (Option.any_eq_true _ _).mp hchanged
  have hbuild : build .studio .duplex = .ok m := toOption_eq_some.mp hm
  exact ⟨m, hbuild, of_decide_eq_true hne, build_toTree hbuild⟩

end AvbEntity

import AvbEntity.Descriptor.Limits
import AvbEntity.Model.Basic
import AvbEntity.Model.Tree

/-!
# Building the model

The model is built from a tree and the address of the interface. Descriptors are numbered in the
order of the tree, separately for each kind; what depends on the interface or on the other
descriptors is filled in; and nothing that could not be served is admitted.

## Main definitions

* `BuildError`: why a tree describes no model
* `Tally`: how many descriptors of each kind were seen
* `Build.tally`: the descriptors of a configuration counted, or the first that has no place in it
* `Build.number`, `Build.complete`: the indices and the derived fields
* `Model.build`: the model of a tree
-/

namespace AvbEntity

open Descriptor (DescriptorCount Entity LimitError Summary)

/-- Why a tree describes no model. -/
inductive BuildError where
  | noConfigurations
  | tooManyConfigurations (count : Nat)
  /-- The configuration in use is not among the configurations. -/
  | currentOutOfRange (current : UInt16) (count : Nat)
  /-- A descriptor of the kind does not belong into a configuration. -/
  | misplaced (kind : Kind)
  /-- Only the kind is given of a descriptor whose layout is known. -/
  | fieldless (kind : Kind)
  /-- The indices of 16 bits do not suffice for the kind. -/
  | tooManyDescriptors (kind : Kind) (configuration : Nat)
  /-- A descriptor exceeds a limit. -/
  | limit (fault : LimitError)
  deriving DecidableEq

/-- The wording of the error. -/
def BuildError.message : BuildError → String
  | .noConfigurations => "Descriptor tree has no configurations"
  | .tooManyConfigurations count => "Too many configurations: " ++ toString count
  | .currentOutOfRange current count =>
    "Current configuration " ++ toString current.toNat ++ " out of range (" ++ toString count ++
      " configurations)"
  | .misplaced kind => kind.name ++ " descriptor is not allowed inside a configuration"
  | .fieldless kind =>
    kind.name ++ " descriptor has a wire format and must be declared with its fields"
  | .tooManyDescriptors kind configuration =>
    "Too many " ++ kind.name ++ " descriptors in configuration " ++ toString configuration
  | .limit fault => fault.message

theorem Kind.code_lt (k : Kind) : k.code.toNat < 38 := by
  cases k <;> decide

/-- How many descriptors of each kind were seen. -/
structure Tally where
  /-- The numbers in the order of the type codes. -/
  counts : Vector Nat 38

namespace Tally

/-- No descriptor was seen. -/
def empty : Tally :=
  ⟨.replicate 38 0⟩

/-- The number of descriptors of a kind. -/
def count (t : Tally) (kind : Kind) : Nat :=
  t.counts.get ⟨kind.code.toNat, kind.code_lt⟩

/-- One more descriptor of a kind. -/
def add (t : Tally) (kind : Kind) : Tally :=
  ⟨t.counts.set kind.code.toNat (t.count kind + 1) kind.code_lt⟩

end Tally

namespace Build

/-- The greatest number of configurations, and of descriptors of one kind in a configuration. -/
def maxCount : Nat :=
  65535

/-- Requires that a descriptor belongs into a configuration, with the fields of its kind. -/
def checkPlace (d : Descriptor) : Except BuildError Unit :=
  match d with
  | .entity _ | .numbered _ (.configuration _) => .error (.misplaced d.kind)
  | .numbered _ (.unsupported kind) => if kind.hasLayout then .error (.fieldless kind) else .ok ()
  | _ => .ok ()

/-- One more descriptor counted. -/
def tallyOne (configuration : Nat) (t : Tally) (d : Descriptor) : Except BuildError Tally := do
  checkPlace d
  if t.count d.kind < maxCount then return t.add d.kind
  else throw (.tooManyDescriptors d.kind configuration)

/-- The descriptors of a configuration counted. -/
def tally (configuration : Nat) (ds : List Descriptor) : Except BuildError Tally :=
  ds.foldlM (tallyOne configuration) .empty

/-- The descriptors with the number of those of the same kind before them as their index. -/
def number (ds : List Descriptor) : List Descriptor :=
  let step := fun ((t, done) : Tally × List Descriptor) d =>
    (t.add d.kind, d.renumber (.ofNat (t.count d.kind)) :: done)
  (ds.foldl step (.empty, [])).2.reverse

/-- The descriptor with the fields that depend on the interface and on the number of STRINGS
descriptors beside it. -/
def complete (mac : Mac) (strings : UInt16) : Descriptor → Descriptor
  | .numbered index (.avbInterface i) =>
    .numbered index (.avbInterface { i with macAddress := mac })
  | .numbered index (.locale l) =>
    if l.numberOfStrings = 0 then
      .numbered index (.locale { l with numberOfStrings := strings })
    else .numbered index (.locale l)
  | d => d

/-- The counts that a CONFIGURATION lists: those of the kinds with a layout that are present. -/
def descriptorCounts (t : Tally) : List DescriptorCount :=
  (Kind.all.filter fun kind => kind.hasLayout && 0 < t.count kind).map fun kind =>
    ⟨kind.code, .ofNat (t.count kind)⟩

/-- The configuration at a position, without its streams, and its descriptors counted. -/
def configuration (mac : Mac) (position : Nat) (node : Tree.Configuration) :
    Except BuildError (Configuration × Tally) := do
  let t ← tally position node.descriptors
  -- limits are checked on the descriptors as they will be served
  let descriptors := (number node.descriptors).map (complete mac (.ofNat (t.count .strings)))
  (descriptors.forM Descriptor.check).mapError .limit
  let summary : Summary := {
    objectName := node.objectName
    localizedDescription := node.localizedDescription
    descriptorCounts := descriptorCounts t }
  (Descriptor.check (.numbered (.ofNat position) (.configuration summary))).mapError .limit
  return ({ index := .ofNat position, summary, descriptors }, t)

/-- The configurations of a tree, in order, and the descriptors of each counted. -/
def configurations (mac : Mac) (nodes : List Tree.Configuration) :
    Except BuildError (List (Configuration × Tally)) :=
  nodes.zipIdx.mapM fun (node, position) => configuration mac position node

/-- The ENTITY of a tree with what follows from the interface and from the configurations, of which
the descriptors were counted. -/
def entity (mac : Mac) (tree : Tree) (ts : List Tally) : Entity :=
  let e := tree.entity
  let t := ts[e.currentConfiguration.toNat]?.getD .empty
  { e with
    entityId := if e.entityId.isZero then .ofMac mac else e.entityId
    configurationsCount := .ofNat tree.configurations.length
    talkerStreamSources := .ofNat (t.count .streamOutput)
    listenerStreamSinks := .ofNat (t.count .streamInput) }

/-- Requires that the configurations can be numbered and the one in use is among them. -/
def checkTree (tree : Tree) : Except BuildError Unit :=
  let count := tree.configurations.length
  if count = 0 then .error .noConfigurations
  else if maxCount < count then .error (.tooManyConfigurations count)
  else if count ≤ tree.entity.currentConfiguration.toNat then
    .error (.currentOutOfRange tree.entity.currentConfiguration count)
  else .ok ()

end Build

/-- The model that a tree describes, on an interface of the given address. -/
def Model.build (tree : Tree) (mac : Mac) : Except BuildError Model := do
  Build.checkTree tree
  tree.entity.check.mapError .limit
  let built ← Build.configurations mac tree.configurations
  return Model.resetStreams {
    entity := Build.entity mac tree (built.map (·.2))
    configurations := built.map (·.1) }

end AvbEntity

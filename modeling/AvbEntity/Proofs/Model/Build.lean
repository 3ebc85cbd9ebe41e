import AvbEntity.Connection.Pdu
import AvbEntity.Model.Build
import AvbEntity.Proofs.Model.Streams
import AvbEntity.Proofs.Wire.Codec

/-!
# What building comes to

A model is built in steps, each of which can fail, and of nothing else. Every stream of a model that
was just built is as if it had never been connected.

## Main definitions

* `Tree.duplex`, `Model.duplex`: the tree of an entity with one stream input and one stream output,
  and its model on an interface
* `Connection.Pdu.duplex`: a controller's command to this entity

## Main results

* `Build.configuration_eq_ok`, `Model.build_eq_ok`: what a configuration and a model are built of
* `Model.sink?_of_build`, `Model.source?_of_build`: the streams of a built model are fresh
-/

namespace AvbEntity

/-- What a configuration is built of. -/
theorem Build.configuration_eq_ok {mac : Mac} {position : Nat} {node : Tree.Configuration}
    {c : Configuration} {t : Tally} :
    configuration mac position node = .ok (c, t) ↔
      tally position node.descriptors = .ok t ∧ (∀ d ∈ c.descriptors, d.check = .ok ()) ∧
      (Descriptor.numbered (.ofNat position) (.configuration c.summary)).check = .ok () ∧
      c = {
        index := .ofNat position
        summary := {
          objectName := node.objectName
          localizedDescription := node.localizedDescription
          descriptorCounts := descriptorCounts t }
        descriptors :=
          (number node.descriptors).map (complete mac (.ofNat (t.count .strings))) } := by
  constructor
  · intro h
    obtain ⟨t, htally, h⟩ := bind_eq_ok.mp h
    obtain ⟨_, hchecks, h⟩ := bind_eq_ok.mp h
    obtain ⟨_, hsummary, h⟩ := bind_eq_ok.mp h
    obtain ⟨rfl, rfl⟩ := Prod.mk.inj (Except.ok.inj h)
    exact ⟨htally, forM_eq_ok.mp (mapError_eq_ok.mp hchecks), mapError_eq_ok.mp hsummary, rfl⟩
  · rintro ⟨htally, hchecks, hsummary, rfl⟩
    refine bind_eq_ok.mpr ⟨t, htally, bind_eq_ok.mpr ⟨(), ?_, bind_eq_ok.mpr ⟨(), ?_, rfl⟩⟩⟩
    · exact mapError_eq_ok.mpr (forM_eq_ok.mpr hchecks)
    · exact mapError_eq_ok.mpr hsummary

/-- What a model is built of. -/
theorem Model.build_eq_ok {tree : Tree} {mac : Mac} {m : Model} :
    build tree mac = .ok m ↔ Build.checkTree tree = .ok () ∧ tree.entity.check = .ok () ∧
      ∃ built, Build.configurations mac tree.configurations = .ok built ∧
        m = resetStreams {
          entity := Build.entity mac tree (built.map (·.2))
          configurations := built.map (·.1) } := by
  constructor
  · intro h
    obtain ⟨_, htree, h⟩ := bind_eq_ok.mp h
    obtain ⟨_, hentity, h⟩ := bind_eq_ok.mp h
    obtain ⟨built, hbuilt, h⟩ := bind_eq_ok.mp h
    exact ⟨htree, mapError_eq_ok.mp hentity, built, hbuilt, (Except.ok.inj h).symm⟩
  · rintro ⟨htree, hentity, built, hbuilt, rfl⟩
    refine bind_eq_ok.mpr ⟨(), htree, bind_eq_ok.mpr ⟨(), ?_, bind_eq_ok.mpr ⟨built, hbuilt, rfl⟩⟩⟩
    exact mapError_eq_ok.mpr hentity

namespace Model

variable {m : Model} {configuration uniqueId : UInt16}

theorem configuration?_resetStreams (m : Model) (configuration : UInt16) :
    m.resetStreams.configuration? configuration =
      (m.configuration? configuration).map (·.resetStreams) := by
  rw [configuration?, resetStreams, List.getElem?_map]
  rfl

/-- The states of so many streams, each in its place. -/
theorem getElem?_map_fresh {α : Type} {fresh : UInt16 → α} {count : Nat} {s : α}
    (h : ((List.range count).map fun i => fresh (.ofNat i))[uniqueId.toNat]? = some s) :
    s = fresh uniqueId := by
  obtain ⟨i, hi, rfl⟩ := List.getElem?_eq_some_iff.mp h
  rw [List.getElem_map, List.getElem_range, UInt16.ofNat_toNat]

theorem sink?_resetStreams {s : Sink} (h : m.resetStreams.sink? configuration uniqueId = some s) :
    s = .fresh uniqueId := by
  rw [sink?, configuration?_resetStreams] at h
  obtain ⟨c, hc, hs⟩ := Option.bind_eq_some_iff.mp h
  obtain ⟨c₀, -, rfl⟩ := Option.map_eq_some_iff.mp hc
  exact getElem?_map_fresh hs

theorem source?_resetStreams {s : Source}
    (h : m.resetStreams.source? configuration uniqueId = some s) : s = .fresh uniqueId := by
  rw [source?, configuration?_resetStreams] at h
  obtain ⟨c, hc, hs⟩ := Option.bind_eq_some_iff.mp h
  obtain ⟨c₀, -, rfl⟩ := Option.map_eq_some_iff.mp hc
  exact getElem?_map_fresh hs

theorem eq_resetStreams_of_build {tree : Tree} {mac : Mac} (h : build tree mac = .ok m) :
    ∃ m₀ : Model, m = m₀.resetStreams := by
  obtain ⟨-, -, built, -, hm⟩ := build_eq_ok.mp h
  exact ⟨_, hm⟩

/-- The stream inputs of a built model are as if they had never been connected. -/
theorem sink?_of_build {tree : Tree} {mac : Mac} (h : build tree mac = .ok m) {s : Sink}
    (hs : m.sink? configuration uniqueId = some s) : s = .fresh uniqueId := by
  obtain ⟨m₀, rfl⟩ := eq_resetStreams_of_build h
  exact sink?_resetStreams hs

/-- The stream outputs of a built model are as if they had never been connected. -/
theorem source?_of_build {tree : Tree} {mac : Mac} (h : build tree mac = .ok m) {s : Source}
    (hs : m.source? configuration uniqueId = some s) : s = .fresh uniqueId := by
  obtain ⟨m₀, rfl⟩ := eq_resetStreams_of_build h
  exact source?_resetStreams hs

end Model

/-! ## The smallest entity on both sides -/

/-- One stream input and one stream output. -/
def Tree.duplex : Tree where
  configurations := [{ descriptors :=
    [.numbered 0 (.stream .input {}), .numbered 0 (.stream .output {})] }]

/-- The address of its interface. -/
def Mac.duplex : Mac :=
  .ofNat 0x001B21010203

/-- What is built of the tree on the interface. -/
def Model.duplex : Model where
  entity := {
    entityId := .ofMac .duplex
    talkerStreamSources := 1
    listenerStreamSinks := 1
    configurationsCount := 1 }
  configurations := [{
    index := 0
    summary := { descriptorCounts := [⟨Kind.streamInput.code, 1⟩, ⟨Kind.streamOutput.code, 1⟩] }
    descriptors := [.numbered 0 (.stream .input {}), .numbered 0 (.stream .output {})]
    sinks := [.fresh 0]
    sources := [.fresh 0] }]

theorem Model.build_duplex : build .duplex .duplex = .ok .duplex :=
  -- compared as options, whose equality is decidable
  toOption_eq_some.mp (by decide +kernel)

/-- A controller's command on the stream input and the stream output of this entity. -/
def Connection.Pdu.duplex (x : Connection.Exchange) (sequenceId : UInt16) : Connection.Pdu where
  messageType := .command x
  talkerEntityId := Model.duplex.entityId
  listenerEntityId := Model.duplex.entityId
  sequenceId

end AvbEntity


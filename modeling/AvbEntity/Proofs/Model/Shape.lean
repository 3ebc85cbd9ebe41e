import AvbEntity.Proofs.Model.Build

/-!
# What the streams do not change

What the streams of a model remember comes and goes. The shape of the model is all the rest: the
entity, the descriptors, and how many streams there are of each direction. What is found under a
number, and whether it is found, can be told from the shape.

## Main definitions

* `Configuration.shape`, `Model.shape`: without what the streams remember

## Main results

* `Model.shape_modifySink`, `Model.shape_modifySource`, `Model.shape_resetStreams`: no change of the
  streams changes the shape
* `Model.find?_shape`, `Model.isSome_sink?_shape`, `Model.isSome_source?_shape`: what is found
-/

namespace AvbEntity

/-- The configuration without what its streams remember: there are as many, and all are alike. -/
def Configuration.shape (c : Configuration) : Configuration :=
  { c with
    sinks := .replicate c.sinks.length (.fresh 0)
    sources := .replicate c.sources.length (.fresh 0) }

namespace Model

/-- The model without what its streams remember. -/
def shape (m : Model) : Model :=
  { m with configurations := m.configurations.map (·.shape) }

variable (m : Model)

@[simp] theorem entity_shape : m.shape.entity = m.entity := rfl

@[simp] theorem entityId_shape : m.shape.entityId = m.entityId := rfl

theorem configuration?_shape (c : UInt16) :
    m.shape.configuration? c = (m.configuration? c).map (·.shape) := by
  rw [configuration?, shape, List.getElem?_map]
  rfl

/-! ## What is found -/

/-- Every descriptor is in the shape. -/
@[simp] theorem find?_shape (c : UInt16) (k : Kind) (i : UInt16) :
    m.shape.find? c k i = m.find? c k i := by
  unfold find?
  split
  case h_1 => rfl
  case h_2 =>
    rw [configuration?_shape, Option.map_map]
    rfl
  case h_3 =>
    rw [configuration?_shape]
    cases m.configuration? c <;> rfl

@[simp] theorem isSome_sink?_shape (c u : UInt16) :
    (m.shape.sink? c u).isSome = (m.sink? c u).isSome := by
  rw [sink?, sink?, configuration?_shape]
  cases m.configuration? c with
  | none => rfl
  | some configuration =>
    show (List.replicate configuration.sinks.length (Sink.fresh 0))[u.toNat]?.isSome =
      configuration.sinks[u.toNat]?.isSome
    rw [Bool.eq_iff_iff, isSome_getElem?, isSome_getElem?, List.length_replicate]

@[simp] theorem isSome_source?_shape (c v : UInt16) :
    (m.shape.source? c v).isSome = (m.source? c v).isSome := by
  rw [source?, source?, configuration?_shape]
  cases m.configuration? c with
  | none => rfl
  | some configuration =>
    show (List.replicate configuration.sources.length (Source.fresh 0))[v.toNat]?.isSome =
      configuration.sources[v.toNat]?.isSome
    rw [Bool.eq_iff_iff, isSome_getElem?, isSome_getElem?, List.length_replicate]

/-! ## What changes the streams -/

variable {m}

/-- A change that keeps the shape of a configuration keeps that of the model. -/
theorem shape_modify {f : Configuration → Configuration} (hf : ∀ c, (f c).shape = c.shape)
    (configuration : UInt16) : (m.modify configuration f).shape = m.shape := by
  have hmap : (m.configurations.modify configuration.toNat f).map (·.shape) =
      m.configurations.map (·.shape) := map_modify_of_getElem? fun c _ => hf c
  rw [shape, modify, hmap]
  rfl

@[simp] theorem shape_modifySink (configuration uniqueId : UInt16) (f : Sink → Sink) :
    (m.modifySink configuration uniqueId f).shape = m.shape := by
  refine shape_modify (fun c => ?_) configuration
  rw [Configuration.shape, List.length_modify]
  rfl

@[simp] theorem shape_modifySource (configuration uniqueId : UInt16) (f : Source → Source) :
    (m.modifySource configuration uniqueId f).shape = m.shape := by
  refine shape_modify (fun c => ?_) configuration
  rw [Configuration.shape, List.length_modify]
  rfl

/-- The streams at the start are told by the shape. -/
theorem resetStreams_shape (m : Model) : m.shape.resetStreams = m.resetStreams := by
  rw [resetStreams, shape, List.map_map]
  rfl

/-- A model of the shape that was built has it again after its streams are set back. -/
theorem shape_resetStreams {tree : Tree} {mac : Mac} {built : Model}
    (hbuild : build tree mac = .ok built) (h : m.shape = built.shape) :
    m.resetStreams.shape = built.shape := by
  obtain ⟨m₀, rfl⟩ := eq_resetStreams_of_build hbuild
  have htwice : m₀.resetStreams.resetStreams = m₀.resetStreams := by
    rw [resetStreams, resetStreams, List.map_map]
    rfl
  rw [← resetStreams_shape, h, resetStreams_shape, htwice]

end Model

end AvbEntity

import AvbEntity.Proofs.Model.Streams

/-!
# What a change of one stream leaves

Connection management changes the state of one stream of the configuration in use at a time. It
leaves the entity and all descriptors, the number of streams and their numbers, and every other
configuration as a whole. A change of a stream input leaves all stream outputs, and the other way
round.

## Main definitions

* `Model.sinkTables`, `Model.sourceTables`: the streams of all configurations
* `Model.Keeps`: what the streams of the configuration in use do not reach

## Main results

* `Model.keeps_modifySink`, `Model.keeps_modifySource`: a change that keeps the number of the stream
-/

namespace AvbEntity.Model

/-- The stream inputs of each configuration. -/
def sinkTables (m : Model) : List (List Sink) :=
  m.configurations.map (·.sinks)

/-- The stream outputs of each configuration. -/
def sourceTables (m : Model) : List (List Source) :=
  m.configurations.map (·.sources)

/-- What the streams of the configuration in use do not reach is the same in `m'` as in `m`. -/
structure Keeps (m m' : Model) : Prop where
  entity : m'.entity = m.entity
  descriptors : m'.configurations.map (fun c => (c.index, c.summary, c.descriptors)) =
    m.configurations.map fun c => (c.index, c.summary, c.descriptors)
  /-- There are as many stream inputs, under the same numbers. -/
  sinkIds : m'.sinkTables.map (·.map (·.listenerUniqueId)) =
    m.sinkTables.map (·.map (·.listenerUniqueId))
  /-- There are as many stream outputs, under the same numbers. -/
  sourceIds : m'.sourceTables.map (·.map (·.talkerUniqueId)) =
    m.sourceTables.map (·.map (·.talkerUniqueId))
  /-- Every other configuration is the same as a whole. -/
  others : ∀ i, i ≠ m.current.toNat → m'.configurations[i]? = m.configurations[i]?

namespace Keeps

variable {m m' m'' : Model}

theorem refl (m : Model) : m.Keeps m :=
  ⟨rfl, rfl, rfl, rfl, fun _ _ => rfl⟩

theorem trans (h : m.Keeps m') (h' : m'.Keeps m'') : m.Keeps m'' where
  entity := h'.entity.trans h.entity
  descriptors := h'.descriptors.trans h.descriptors
  sinkIds := h'.sinkIds.trans h.sinkIds
  sourceIds := h'.sourceIds.trans h.sourceIds
  others i hi := by
    have hcurrent : m'.current = m.current := congrArg (·.currentConfiguration) h.entity
    exact (h'.others i (hcurrent ▸ hi)).trans (h.others i hi)

end Keeps

variable (m : Model)

@[simp] theorem sinkTables_modifySource (configuration uniqueId : UInt16) (f : Source → Source) :
    (m.modifySource configuration uniqueId f).sinkTables = m.sinkTables :=
  map_modify_of_getElem? fun _ _ => rfl

@[simp] theorem sourceTables_modifySink (configuration uniqueId : UInt16) (f : Sink → Sink) :
    (m.modifySink configuration uniqueId f).sourceTables = m.sourceTables :=
  map_modify_of_getElem? fun _ _ => rfl

variable {m}

theorem keeps_modifySink {uniqueId : UInt16} {f : Sink → Sink}
    (hf : ∀ s, m.sink? m.current uniqueId = some s →
      (f s).listenerUniqueId = s.listenerUniqueId) :
    m.Keeps (m.modifySink m.current uniqueId f) where
  entity := rfl
  descriptors := map_modify_of_getElem? fun _ _ => rfl
  sinkIds := by
    rw [sinkTables, sinkTables, List.map_map, List.map_map]
    refine map_modify_of_getElem? fun c hc => map_modify_of_getElem? fun s hs => hf s ?_
    have hconfiguration : m.configuration? m.current = some c := hc
    rw [sink?, hconfiguration]
    exact hs
  sourceIds := by rw [sourceTables_modifySink]
  others i hi := List.getElem?_modify_ne _ _ hi.symm

theorem keeps_modifySource {uniqueId : UInt16} {f : Source → Source}
    (hf : ∀ s, m.source? m.current uniqueId = some s → (f s).talkerUniqueId = s.talkerUniqueId) :
    m.Keeps (m.modifySource m.current uniqueId f) where
  entity := rfl
  descriptors := map_modify_of_getElem? fun _ _ => rfl
  sinkIds := by rw [sinkTables_modifySource]
  sourceIds := by
    rw [sourceTables, sourceTables, List.map_map, List.map_map]
    refine map_modify_of_getElem? fun c hc => map_modify_of_getElem? fun s hs => hf s ?_
    have hconfiguration : m.configuration? m.current = some c := hc
    rw [source?, hconfiguration]
    exact hs
  others i hi := List.getElem?_modify_ne _ _ hi.symm

end AvbEntity.Model

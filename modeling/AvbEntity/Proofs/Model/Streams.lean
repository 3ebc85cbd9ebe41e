import AvbEntity.Model.Basic

/-!
# Changing one stream

A change of one stream state is seen where that stream is looked up, and nowhere else: other
streams of the same direction, all streams of the other direction and the entity stay as they are.

## Main results

* `Model.sink?_modifySink`, `Model.source?_modifySource`: the changed stream
* `Model.sink?_modifySource`, `Model.source?_modifySink`: the other direction
* `Model.entity_modifySink`, `Model.entity_modifySource`: the entity
* `map_modify_of_getElem?`: a change that a function does not see
* `modify_eq_of_getElem?`: a change that is taken back
-/

namespace AvbEntity

/-- A function sees no change at a place where it does not see it. -/
theorem map_modify_of_getElem? {α β : Type} {f : α → α} {g : α → β} {xs : List α} {i : Nat}
    (h : ∀ a, xs[i]? = some a → g (f a) = g a) : (xs.modify i f).map g = xs.map g := by
  refine List.ext_getElem? fun j => ?_
  rw [List.getElem?_map, List.getElem?_map, List.getElem?_modify]
  by_cases hj : i = j
  · subst hj
    cases ha : xs[i]? with
    | none => rfl
    | some a => simp [h a ha]
  · simp [hj]

/-- What is overwritten in one place is put back by what was there before. -/
theorem modify_eq_of_getElem? {α : Type} {xs : List α} {i : Nat} {a : α} (h : xs[i]? = some a)
    (b : α) : (xs.modify i fun _ => b).modify i (fun _ => a) = xs := by
  have hsame := map_modify_of_getElem? (f := fun _ => a) (g := id) fun c hc =>
    Option.some.inj (h.symm.trans hc)
  rw [List.map_id, List.map_id] at hsame
  rw [List.modify_modify_eq]
  exact hsame

namespace Model

/-- A change of a configuration that leaves it as it is. -/
theorem modify_eq_self {m : Model} {configuration : UInt16} {f : Configuration → Configuration}
    (h : ∀ c, m.configuration? configuration = some c → f c = c) :
    m.modify configuration f = m := by
  have hsame := map_modify_of_getElem? (g := id) h
  rw [List.map_id, List.map_id] at hsame
  rw [modify, hsame]

variable (m : Model) (configuration uniqueId : UInt16)

theorem modify_modify (f g : Configuration → Configuration) :
    (m.modify configuration f).modify configuration g = m.modify configuration (g ∘ f) := by
  simp only [modify, List.modify_modify_eq]

@[simp] theorem entity_modifySink (f : Sink → Sink) :
    (m.modifySink configuration uniqueId f).entity = m.entity := rfl

@[simp] theorem entity_modifySource (f : Source → Source) :
    (m.modifySource configuration uniqueId f).entity = m.entity := rfl

@[simp] theorem current_modifySink (f : Sink → Sink) :
    (m.modifySink configuration uniqueId f).current = m.current := rfl

@[simp] theorem current_modifySource (f : Source → Source) :
    (m.modifySource configuration uniqueId f).current = m.current := rfl

@[simp] theorem entityId_modifySink (f : Sink → Sink) :
    (m.modifySink configuration uniqueId f).entityId = m.entityId := rfl

@[simp] theorem entityId_modifySource (f : Source → Source) :
    (m.modifySource configuration uniqueId f).entityId = m.entityId := rfl

theorem configuration?_modify (f : Configuration → Configuration) (c : UInt16) :
    (m.modify configuration f).configuration? c =
      if configuration = c then (m.configuration? c).map f else m.configuration? c := by
  by_cases h : configuration = c
  · simp [modify, configuration?, h]
  · have hne : configuration.toNat ≠ c.toNat := fun hn => h (UInt16.toNat_inj.mp hn)
    simp [modify, configuration?, h, hne]

/-- The changed stream input is seen under its number, and every other one is as before. -/
theorem sink?_modifySink (f : Sink → Sink) (c u : UInt16) :
    (m.modifySink configuration uniqueId f).sink? c u =
      if configuration = c ∧ uniqueId = u then (m.sink? c u).map f else m.sink? c u := by
  simp only [modifySink, sink?, configuration?_modify]
  by_cases hc : configuration = c
  · subst hc
    by_cases hu : uniqueId = u
    · subst hu
      cases m.configuration? configuration <;> simp
    · have hne : uniqueId.toNat ≠ u.toNat := fun hn => hu (UInt16.toNat_inj.mp hn)
      cases m.configuration? configuration <;> simp [hu, hne]
  · simp [hc]

/-- The changed stream output is seen under its number, and every other one is as before. -/
theorem source?_modifySource (f : Source → Source) (c u : UInt16) :
    (m.modifySource configuration uniqueId f).source? c u =
      if configuration = c ∧ uniqueId = u then (m.source? c u).map f else m.source? c u := by
  simp only [modifySource, source?, configuration?_modify]
  by_cases hc : configuration = c
  · subst hc
    by_cases hu : uniqueId = u
    · subst hu
      cases m.configuration? configuration <;> simp
    · have hne : uniqueId.toNat ≠ u.toNat := fun hn => hu (UInt16.toNat_inj.mp hn)
      cases m.configuration? configuration <;> simp [hu, hne]
  · simp [hc]

@[simp] theorem sink?_modifySource (f : Source → Source) (c u : UInt16) :
    (m.modifySource configuration uniqueId f).sink? c u = m.sink? c u := by
  simp only [modifySource, sink?, configuration?_modify]
  by_cases hc : configuration = c
  · subst hc
    cases m.configuration? configuration <;> simp
  · simp [hc]

@[simp] theorem source?_modifySink (f : Sink → Sink) (c u : UInt16) :
    (m.modifySink configuration uniqueId f).source? c u = m.source? c u := by
  simp only [modifySink, source?, configuration?_modify]
  by_cases hc : configuration = c
  · subst hc
    cases m.configuration? configuration <;> simp
  · simp [hc]

end Model

end AvbEntity

import AvbEntity.Descriptor.Document
import AvbEntity.Proofs.Identifier.Spelling

/-!
# Descriptors are read back from documents

The fields of every kind of descriptor account for the whole of it, and no field is called as the
type of a descriptor or as its index. So a descriptor is read back from the record that is written
for it, whatever its kind, and be it one of which only the kind is known.

## Main definitions

* `Accounts`: a schema for the body of a descriptor
* `Body.Reads`: entries that are read as a descriptor of a type

## Main results

* `Body.reads_writeEntries`: the entries of a body are read as the descriptor
* `faithful_form`: descriptors are read back
-/

namespace AvbEntity

open Document (Copies Form ReadError Schema Value)

/-! ## Kinds -/

namespace Kind

theorem ofLabel?_label (k : Kind) : ofLabel? k.label = some k := by
  cases k <;> rfl

@[simp] theorem faithful_form : form.Faithful where
  read_write k := by
    simp only [form, ofLabel?_label]
  isReadable_write _ := rfl

end Kind

namespace Descriptor

/-! ## Parts of descriptors -/

@[simp] theorem DescriptorCount.faithful_schema : DescriptorCount.schema.Faithful where
  nodup_names := by decide
  required_subset := List.Subset.refl _
  copies a := by simp [schema]

@[simp] theorem Span.faithful_schema : Span.schema.Faithful where
  nodup_names := by decide
  required_subset := List.nil_subset _
  copies a := by simp [schema]

@[simp] theorem TalkerRef.faithful_schema : TalkerRef.schema.Faithful where
  nodup_names := by decide
  required_subset := List.nil_subset _
  copies a := by simp [schema]

@[simp] theorem AudioMapping.faithful_schema : AudioMapping.schema.Faithful where
  nodup_names := by decide
  required_subset := List.nil_subset _
  copies a := by simp [schema]

@[simp] theorem VideoMapping.faithful_schema : VideoMapping.schema.Faithful where
  nodup_names := by decide
  required_subset := List.nil_subset _
  copies a := by simp [schema]

namespace Resources

/-- The ranges `b` with those of `a` at some places. -/
def overlay (a : Resources) (places : List (Fin 16)) (b : Resources) : Resources :=
  .ofFn fun i => if places.contains i then a.get i else b.get i

theorem getElem_overlay (a : Resources) (places : List (Fin 16)) (b : Resources) {i : Nat}
    (hi : i < 16) : (overlay a places b)[i] = if places.contains ⟨i, hi⟩ then a[i] else b[i] := by
  rw [overlay, Vector.getElem_ofFn]
  rfl

theorem overlay_nil (a b : Resources) : overlay a [] b = b :=
  Vector.ext fun i hi => by rw [getElem_overlay, List.contains_nil, if_neg Bool.false_ne_true]

theorem overlay_finRange (a b : Resources) : overlay a (List.finRange 16) b = a :=
  Vector.ext fun i hi => by
    rw [getElem_overlay, if_pos (List.contains_iff_mem.mpr (List.mem_finRange _))]

/-- The fields of the ranges carry over all of them. -/
theorem copies_fields {α : Type} (get : α → Resources) (set : α → Resources → α)
    (hget : ∀ a r, get (set a r) = r) (hset : ∀ a r r', set (set a r) r' = set a r')
    (hself : ∀ a, set a (get a) = a) (a b : α) : Copies a (fields get set) b (set b (get a)) := by
  have hplaces : ∀ (places : List (Fin 16)) (b : α),
      Copies a (places.map fun i : Fin 16 => .of resourceNames[i] Span.schema.form
          (fun a => (get a)[i]) fun a span => set a ((get a).set i span)) b
        (set b (overlay (get a) places (get b))) := by
    intro places
    induction places with
    | nil =>
      intro b
      rw [overlay_nil, hself]
      exact Copies.nil_iff.mpr rfl
    | cons i places ih =>
      intro b
      refine (Copies.of_cons_iff Span.faithful_schema.form).mpr ?_
      have hrest := ih (set b ((get b).set i (get a)[i]))
      have hoverlay : overlay (get a) places ((get b).set i (get a)[i]) =
          overlay (get a) (i :: places) (get b) := by
        refine Vector.ext fun j hj => ?_
        by_cases hij : i = ⟨j, hj⟩
        · simp [getElem_overlay, hij]
        · have hval : i.val ≠ j := fun h => hij (Fin.ext h)
          simp [getElem_overlay, Vector.getElem_set_ne, hval, Ne.symm hij]
      rwa [hget, hset, hoverlay] at hrest
  have hall := hplaces (List.finRange 16) b
  rwa [overlay_finRange] at hall

end Resources

/-! ## Bodies -/

/-- The schema accounts for the body of a descriptor: it is faithful, and none of its fields is
called as another one, as the type or as the index. -/
structure Accounts {α : Type} (s : Schema α) : Prop where
  nodup_names : (typeField :: "descriptor_index" :: s.names).Nodup
  required_subset : s.required ⊆ s.names
  copies : ∀ a, Copies a s.fields s.blank a

namespace Accounts

variable {α : Type} {s : Schema α}

theorem faithful_numbered (h : Accounts s) : s.numbered.Faithful :=
  have hindexed := (List.nodup_cons.mp h.nodup_names).2
  have hfaithful : s.Faithful :=
    ⟨(List.nodup_cons.mp hindexed).2, h.required_subset, h.copies⟩
  hfaithful.numbered (List.nodup_cons.mp hindexed).1

theorem typeField_not_mem (h : Accounts s) : typeField ∉ s.numbered.names := by
  rw [Schema.Faithful.names_numbered]
  exact (List.nodup_cons.mp h.nodup_names).1

end Accounts

theorem Summary.accounts_schema : Accounts Summary.schema where
  nodup_names := by decide
  required_subset := List.nil_subset _
  copies a := by simp [schema, DescriptorCount.faithful_schema.form.list]

theorem AudioUnit.accounts_schema : Accounts AudioUnit.schema where
  nodup_names := by decide
  required_subset := List.nil_subset _
  copies a := by
    have hresources := Resources.copies_fields AudioUnit.resources
      (fun u resources => { u with resources }) (fun _ _ => rfl) (fun _ _ _ => rfl)
      (fun _ => rfl) a
    simpa [schema] using hresources _

theorem VideoUnit.accounts_schema : Accounts VideoUnit.schema where
  nodup_names := by decide
  required_subset := List.nil_subset _
  copies a := by
    have hresources := Resources.copies_fields VideoUnit.resources
      (fun u resources => { u with resources }) (fun _ _ => rfl) (fun _ _ _ => rfl)
      (fun _ => rfl) a
    simpa [schema] using hresources _

theorem Stream.accounts_schema : Accounts Stream.schema where
  nodup_names := by decide
  required_subset := List.nil_subset _
  copies a := by simp [schema, TalkerRef.faithful_schema.form.vector]

theorem Jack.accounts_schema : Accounts Jack.schema where
  nodup_names := by decide
  required_subset := List.nil_subset _
  copies a := by simp [schema]

theorem AvbInterface.accounts_schema : Accounts AvbInterface.schema where
  nodup_names := by decide
  required_subset := List.nil_subset _
  copies a := by simp [schema]

theorem ClockSource.accounts_schema : Accounts ClockSource.schema where
  nodup_names := by decide
  required_subset := List.nil_subset _
  copies a := by simp [schema]

theorem Locale.accounts_schema : Accounts Locale.schema where
  nodup_names := by decide
  required_subset := List.nil_subset _
  copies a := by simp [schema]

theorem Strings.accounts_schema : Accounts Strings.schema where
  nodup_names := by decide
  required_subset := List.nil_subset _
  copies a := by simp [schema]

theorem StreamPort.accounts_schema : Accounts StreamPort.schema where
  nodup_names := by decide
  required_subset := List.nil_subset _
  copies a := by simp [schema]

theorem AudioCluster.accounts_schema : Accounts AudioCluster.schema where
  nodup_names := by decide
  required_subset := List.nil_subset _
  copies a := by simp [schema]

theorem VideoCluster.accounts_schema : Accounts VideoCluster.schema where
  nodup_names := by decide
  required_subset := List.nil_subset _
  copies a := by simp [schema]

theorem ClockDomain.accounts_schema : Accounts ClockDomain.schema where
  nodup_names := by decide
  required_subset := List.nil_subset _
  copies a := by simp [schema]

theorem accounts_mapSchema {α : Type} {form : Form α} (h : form.Faithful) :
    Accounts (mapSchema form) where
  nodup_names := (by decide : [typeField, "descriptor_index", "mappings"].Nodup)
  required_subset := List.nil_subset _
  copies a := by simp [mapSchema, h]

/-! ## Descriptors -/

namespace Body

/-- The entries are those of a descriptor of the type: none of them names the type, none may only
be skipped, and they are read as the descriptor. -/
structure Reads (tag : String) (es : List (String × Value)) (d : Descriptor) : Prop where
  untyped : ∀ e ∈ es, e.1 ≠ typeField
  isReadable : ∀ e ∈ es, e.2.isReadable
  readTagged : readTagged tag (.record es) = .ok d

/-- The entries of a faithful schema, without the name of the type. -/
theorem Reads.of_schema {α : Type} {s : Schema α} {tag : String} {d : Descriptor} {a : α}
    (hs : s.Faithful) (htype : typeField ∉ s.names)
    (hread : ∀ v, s.read v = .ok a → Descriptor.readTagged tag v = .ok d) :
    Reads tag (s.writeEntries a) d where
  untyped e he heq := by
    have hmem := List.mem_map_of_mem (f := (·.1)) he
    rw [Schema.map_fst_writeEntries] at hmem
    exact htype (heq ▸ hmem)
  isReadable := hs.isReadable_writeEntries a
  readTagged := hread _ (hs.read_writeEntries a)

theorem label_ne_unsupportedTag (k : Kind) : k.label ≠ unsupportedTag := by
  cases k <;> decide

theorem readTagged_label (k : Kind) (v : Value) : Descriptor.readTagged k.label v = read k v := by
  rw [Descriptor.readTagged, if_neg (label_ne_unsupportedTag k), Kind.ofLabel?_label]

/-- The entries of a numbered descriptor of a kind with a layout. -/
theorem reads_numbered {α : Type} {s : Schema α} (kind : Kind) (make : α → Body) (h : Accounts s)
    (hread : ∀ v, read kind v = readNumbered s make v) {index : UInt16} {a : α} :
    Reads kind.label (s.numbered.writeEntries (index, a)) (.numbered index (make a)) := by
  refine .of_schema h.faithful_numbered h.typeField_not_mem fun v hv => ?_
  rw [readTagged_label, hread, readNumbered, hv, Except.map]

theorem faithful_unsupportedSchema : unsupportedSchema.Faithful where
  nodup_names := by decide
  required_subset := by decide
  copies a := by simp [unsupportedSchema]

/-- The entries of a body are read as the descriptor they were written from. -/
theorem reads_writeEntries (index : UInt16) (body : Body) :
    Reads body.tag (body.writeEntries index) (.numbered index body) := by
  cases body with
  | configuration c =>
    exact reads_numbered .configuration .configuration Summary.accounts_schema fun _ => rfl
  | audioUnit u =>
    exact reads_numbered .audioUnit .audioUnit AudioUnit.accounts_schema fun _ => rfl
  | videoUnit u =>
    exact reads_numbered .videoUnit .videoUnit VideoUnit.accounts_schema fun _ => rfl
  | stream direction s =>
    cases direction with
    | input =>
      exact reads_numbered .streamInput (.stream .input) Stream.accounts_schema fun _ => rfl
    | output =>
      exact reads_numbered .streamOutput (.stream .output) Stream.accounts_schema fun _ => rfl
  | jack direction j =>
    cases direction with
    | input =>
      exact reads_numbered .jackInput (.jack .input) Jack.accounts_schema fun _ => rfl
    | output =>
      exact reads_numbered .jackOutput (.jack .output) Jack.accounts_schema fun _ => rfl
  | avbInterface i =>
    exact reads_numbered .avbInterface .avbInterface AvbInterface.accounts_schema fun _ => rfl
  | clockSource c =>
    exact reads_numbered .clockSource .clockSource ClockSource.accounts_schema fun _ => rfl
  | locale l =>
    exact reads_numbered .locale .locale Locale.accounts_schema fun _ => rfl
  | strings s =>
    exact reads_numbered .strings .strings Strings.accounts_schema fun _ => rfl
  | streamPort direction p =>
    cases direction with
    | input =>
      exact reads_numbered .streamPortInput (.streamPort .input) StreamPort.accounts_schema
        fun _ => rfl
    | output =>
      exact reads_numbered .streamPortOutput (.streamPort .output) StreamPort.accounts_schema
        fun _ => rfl
  | audioCluster c =>
    exact reads_numbered .audioCluster .audioCluster AudioCluster.accounts_schema fun _ => rfl
  | videoCluster c =>
    exact reads_numbered .videoCluster .videoCluster VideoCluster.accounts_schema fun _ => rfl
  | audioMap mappings =>
    exact reads_numbered .audioMap .audioMap (accounts_mapSchema AudioMapping.faithful_schema.form)
      fun _ => rfl
  | videoMap mappings =>
    exact reads_numbered .videoMap .videoMap (accounts_mapSchema VideoMapping.faithful_schema.form)
      fun _ => rfl
  | clockDomain d =>
    exact reads_numbered .clockDomain .clockDomain ClockDomain.accounts_schema fun _ => rfl
  | unsupported kind =>
    refine .of_schema faithful_unsupportedSchema (by decide) fun v hv => ?_
    rw [Descriptor.readTagged, tag, if_pos rfl, hv]
    rfl

end Body

/-- The fields of the ENTITY account for all of it. -/
theorem Entity.faithful_schema : Entity.schema.Faithful where
  nodup_names := by decide
  required_subset := List.nil_subset _
  copies a := by simp [schema]

theorem reads_entity (e : Entity) :
    Body.Reads Kind.entity.label (Entity.schema.writeEntries e) (.entity e) := by
  refine .of_schema Entity.faithful_schema (by decide) fun v hv => ?_
  rw [Body.readTagged_label, Body.read, hv, Except.map]

/-- The type in front of its entries. -/
theorem Body.Reads.read_record {tag : String} {es : List (String × Value)} {d : Descriptor}
    (h : Reads tag es d) : form.read (.record ((typeField, .text tag) :: es)) = .ok d := by
  have hreadable : (Value.record ((typeField, .text tag) :: es)).isReadable :=
    Value.entriesReadable_iff.mpr (List.forall_mem_cons.mpr ⟨rfl, h.isReadable⟩)
  have htype : ((typeField, Value.text tag) :: es).filter (·.1 == typeField) =
      [(typeField, .text tag)] := by
    rw [List.filter_cons_of_pos (by simp),
      List.filter_eq_nil_iff.mpr fun e he => by simpa using h.untyped e he]
  have hrest : ((typeField, Value.text tag) :: es).filter (·.1 != typeField) = es := by
    rw [List.filter_cons_of_neg (by simp),
      List.filter_eq_self.mpr fun e he => by simpa using h.untyped e he]
  show (if _ then _ else _) = _
  rw [if_pos hreadable, readReadable, htype]
  show Descriptor.readTagged tag (.record _) = .ok d
  rw [hrest, h.readTagged]

/-- Descriptors of all kinds are read back. -/
@[simp] theorem faithful_form : form.Faithful where
  read_write d := by
    cases d with
    | entity e => exact (reads_entity e).read_record
    | numbered index body => exact (body.reads_writeEntries index).read_record
  isReadable_write d := by
    cases d with
    | entity e =>
      exact Value.entriesReadable_iff.mpr
        (List.forall_mem_cons.mpr ⟨rfl, (reads_entity e).isReadable⟩)
    | numbered index body =>
      exact Value.entriesReadable_iff.mpr
        (List.forall_mem_cons.mpr ⟨rfl, (body.reads_writeEntries index).isReadable⟩)

end Descriptor

end AvbEntity

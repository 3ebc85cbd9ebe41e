import AvbEntity.Document.Form
import AvbEntity.Proofs.Wire.Codec
import Mathlib.Data.List.Nodup

/-!
# Reading back a written document

A form is faithful if it reads back every value that it writes, and writes nothing that a reader
may only skip. Numbers and texts are; lists are if their members are. A record is read back if its
fields have different names, the required ones among them, and if writing the fields of a record
one after another into the blank makes the record.

## Main definitions

* `Form.Faithful`: the form reads back what it wrote
* `Field.copy`: a field of one record written into another
* `Copies`: what the fields of a record make of another one
* `Schema.Faithful`: the schema accounts for the whole record

## Main results

* `Form.Faithful.list`, `Form.Faithful.vector`: the composite forms
* `Schema.Faithful.form`: a faithful schema has a faithful form
* `Schema.Faithful.numbered`: a record behind the index of its descriptor
-/

namespace AvbEntity.Document

variable {α β : Type}

/-! ## Readable values -/

namespace Value

theorem allReadable_iff {vs : List Value} : allReadable vs ↔ ∀ v ∈ vs, v.isReadable := by
  induction vs with
  | nil => simp [allReadable]
  | cons v vs ih => rw [allReadable, Bool.and_eq_true, ih, List.forall_mem_cons]

theorem entriesReadable_iff {es : List (String × Value)} :
    entriesReadable es ↔ ∀ e ∈ es, e.2.isReadable := by
  induction es with
  | nil => simp [entriesReadable]
  | cons e es ih => rw [entriesReadable, Bool.and_eq_true, ih, List.forall_mem_cons]

end Value

/-! ## Forms -/

namespace Form

/-- The form reads back what it wrote, none of which may only be skipped. -/
structure Faithful (f : Form α) : Prop where
  read_write : ∀ a, f.read (f.write a) = .ok a
  isReadable_write : ∀ a, (f.write a).isReadable

theorem below_of_lt {bound n : Nat} (h : n < bound) : below bound (.integer n) = .ok n := by
  rw [below, if_pos ⟨Int.natCast_nonneg n, Int.ofNat_lt.mpr h⟩, Int.toNat_natCast]

theorem below_eq_error {bound : Nat} {n : Int} (h : n < 0 ∨ bound ≤ n) :
    below bound (.integer n) = .error .misfit := by
  rw [below, if_neg (by omega)]

/-- Values that are written as their numbers, all of which lie below the bound. -/
theorem faithful_of_below {f : Form α} {bound : Nat} {toNat : α → Nat} {ofNat : Nat → α}
    (hwrite : ∀ a, f.write a = .integer (toNat a))
    (hread : ∀ v, f.read v = (below bound v).map ofNat) (hlt : ∀ a, toNat a < bound)
    (hinverse : ∀ a, ofNat (toNat a) = a) : f.Faithful where
  read_write a := by rw [hwrite, hread, below_of_lt (hlt a), Except.map, hinverse]
  isReadable_write a := by
    rw [hwrite]
    rfl

@[simp] theorem faithful_word8 : word8.Faithful :=
  faithful_of_below (fun _ => rfl) (fun _ => rfl) UInt8.toNat_lt_size fun _ => UInt8.ofNat_toNat

@[simp] theorem faithful_word16 : word16.Faithful :=
  faithful_of_below (fun _ => rfl) (fun _ => rfl) UInt16.toNat_lt_size fun _ => UInt16.ofNat_toNat

@[simp] theorem faithful_word32 : word32.Faithful :=
  faithful_of_below (fun _ => rfl) (fun _ => rfl) UInt32.toNat_lt_size fun _ => UInt32.ofNat_toNat

@[simp] theorem faithful_word64 : word64.Faithful :=
  faithful_of_below (fun _ => rfl) (fun _ => rfl) UInt64.toNat_lt_size fun _ => UInt64.ofNat_toNat

@[simp] theorem faithful_text : text.Faithful where
  read_write _ := rfl
  isReadable_write _ := rfl

namespace Faithful

variable {f : Form α}

/-- However a document spells a value, what is written of the value is read as the same. -/
theorem read_settles (h : f.Faithful) (v : Value) :
    (f.read v >>= fun a => f.read (f.write a)) = f.read v := by
  cases f.read v with
  | ok a => exact h.read_write a
  | error e => rfl

/-- No two values are written alike. -/
theorem write_injective (h : f.Faithful) : Function.Injective f.write := by
  intro a b heq
  have hread := h.read_write a
  rw [heq, h.read_write b] at hread
  exact (Except.ok.inj hread).symm

/-- The members of a list are read back in order. -/
theorem mapM_read (h : f.Faithful) (xs : List α) : (xs.map f.write).mapM f.read = .ok xs := by
  induction xs with
  | nil => rfl
  | cons x xs ih =>
    rw [List.map_cons, List.mapM_cons, h.read_write, ih]
    rfl

@[simp] theorem list (h : f.Faithful) : f.list.Faithful where
  read_write xs := h.mapM_read xs
  isReadable_write xs := by
    show Value.allReadable (xs.map f.write)
    rw [Value.allReadable_iff, List.forall_mem_map]
    exact fun x _ => h.isReadable_write x

@[simp] theorem vector (h : f.Faithful) (n : Nat) : (f.vector n).Faithful where
  read_write xs := by
    have hlist : f.list.read (.list (xs.toList.map f.write)) = .ok xs.toList :=
      h.list.read_write xs.toList
    have hsize : xs.toList.toArray.size = n := by simp
    simp only [Form.vector, hlist, bind_ok, dif_pos hsize]
    rfl
  isReadable_write xs := h.list.isReadable_write xs.toList

end Faithful

end Form

/-! ## Fields -/

namespace Field

/-- The field of one record written into another. -/
def copy (a b : α) (f : Field α) : Except ReadError α :=
  f.read (f.write a) b

end Field

/-- The fields of the record `a`, written one after another into `b`, make `c`. -/
structure Copies (a : α) (fields : List (Field α)) (b c : α) : Prop where
  foldlM_copy : fields.foldlM (Field.copy a) b = .ok c
  isReadable_write : ∀ f ∈ fields, (f.write a).isReadable

namespace Copies

variable {a b c d : α} {fields more : List (Field α)}

@[simp] theorem nil_iff : Copies a [] b c ↔ b = c := by
  constructor
  · exact fun h => Except.ok.inj h.foldlM_copy
  · rintro rfl
    exact ⟨rfl, fun f hf => absurd hf List.not_mem_nil⟩

/-- A field of a faithful form carries over what it is for. -/
@[simp] theorem of_cons_iff {name : String} {form : Form β} {get : α → β} {set : α → β → α}
    (hform : form.Faithful) :
    Copies a (.of name form get set :: fields) b c ↔ Copies a fields (set b (get a)) c := by
  have hcopy : Field.copy a b (.of name form get set) = .ok (set b (get a)) := by
    show (form.read (form.write (get a))).map (set b) = .ok (set b (get a))
    rw [hform.read_write, Except.map]
  constructor
  · rintro ⟨hfold, hreadable⟩
    rw [List.foldlM_cons, hcopy] at hfold
    exact ⟨hfold, fun f hf => hreadable f (List.mem_cons_of_mem _ hf)⟩
  · rintro ⟨hfold, hreadable⟩
    refine ⟨by rwa [List.foldlM_cons, hcopy], List.forall_mem_cons.mpr ⟨?_, hreadable⟩⟩
    exact hform.isReadable_write (get a)

/-- Fields of the second component leave the first as it is. -/
theorem second {x y : β} (h : Copies a fields b c) :
    Copies (x, a) (fields.map .second) (y, b) (y, c) where
  foldlM_copy := by
    have hsecond : ∀ (fields : List (Field α)) (b : α),
        (fields.map .second).foldlM (Field.copy (x, a)) (y, b) =
          (fields.foldlM (Field.copy a) b).map ((y, ·)) := by
      intro fields
      induction fields with
      | nil => exact fun b => rfl
      | cons f fields ih =>
        intro b
        rw [List.map_cons, List.foldlM_cons, List.foldlM_cons]
        show (f.copy a b).map ((y, ·)) >>= _ = _
        cases f.copy a b with
        | ok b => exact ih b
        | error e => rfl
    rw [hsecond, h.foldlM_copy, Except.map]
  isReadable_write := by
    rw [List.forall_mem_map]
    exact h.isReadable_write

end Copies

/-! ## Records -/

namespace Schema

/-- The schema accounts for every record: no two fields have one name, the required ones are among
them, and the blank with the fields of a record is that record. -/
structure Faithful (s : Schema α) : Prop where
  nodup_names : s.names.Nodup
  required_subset : s.required ⊆ s.names
  copies : ∀ a, Copies a s.fields s.blank a

variable {s : Schema α}

theorem map_fst_writeEntries (a : α) : (s.writeEntries a).map (·.1) = s.names := by
  rw [writeEntries, List.map_map]
  rfl

/-- No field is written twice. -/
theorem entries_writeEntries (h : s.names.Nodup) (a : α) :
    s.entries (.record (s.writeEntries a)) = .ok (s.writeEntries a) := by
  refine if_pos (List.all_eq_true.mpr fun name _ => decide_eq_true ?_)
  calc (s.writeEntries a).countP (·.1 == name)
      = ((s.writeEntries a).map (·.1)).countP (· == name) := by rw [List.countP_map]; rfl
    _ = s.names.count name := by rw [map_fst_writeEntries, List.count]
    _ ≤ 1 := List.nodup_iff_count_le_one.mp h name

/-- A field is found by its name. -/
theorem find?_name (h : s.names.Nodup) {f : Field α} (hf : f ∈ s.fields) :
    s.fields.find? (·.name == f.name) = some f := by
  have hsome : (s.fields.find? (·.name == f.name)).isSome :=
    List.find?_isSome.mpr ⟨f, hf, beq_self_eq_true f.name⟩
  obtain ⟨g, hg⟩ := Option.isSome_iff_exists.mp hsome
  have hname : g.name = f.name := by simpa using List.find?_some hg
  rw [hg, List.inj_on_of_nodup_map h (List.mem_of_find?_eq_some hg) hf hname]

/-- The written entries are read as the fields they were written from. -/
theorem foldlM_readEntry (h : s.names.Nodup) (a : α) {fields : List (Field α)}
    (hfields : fields ⊆ s.fields) (b : α) :
    (fields.map fun f => (f.name, f.write a)).foldlM s.readEntry b =
      fields.foldlM (Field.copy a) b := by
  induction fields generalizing b with
  | nil => rfl
  | cons f fields ih =>
    obtain ⟨hf, hrest⟩ := List.cons_subset.mp hfields
    have hentry : s.readEntry b (f.name, f.write a) = f.copy a b := by
      rw [readEntry, find?_name h hf]
      rfl
    rw [List.map_cons, List.foldlM_cons, List.foldlM_cons, hentry]
    exact congrArg _ (funext fun b => ih hrest b)

namespace Faithful

/-- The entries of a record are read as the record. -/
theorem read_writeEntries (h : s.Faithful) (a : α) :
    s.read (.record (s.writeEntries a)) = .ok a := by
  have hrequired : (s.required.all fun name => (s.writeEntries a).any (·.1 == name)) = true := by
    refine List.all_eq_true.mpr fun name hname => List.any_eq_true.mpr ?_
    have hmem := h.required_subset hname
    rw [← map_fst_writeEntries a] at hmem
    obtain ⟨e, he, hfst⟩ := List.mem_map.mp hmem
    exact ⟨e, he, beq_iff_eq.mpr hfst⟩
  rw [read, entries_writeEntries h.nodup_names, bind_ok, writeEntries,
    foldlM_readEntry h.nodup_names a (List.Subset.refl s.fields), (h.copies a).foldlM_copy, bind_ok]
  exact if_pos hrequired

theorem isReadable_writeEntries (h : s.Faithful) (a : α) :
    ∀ e ∈ s.writeEntries a, e.2.isReadable :=
  List.forall_mem_map.mpr (h.copies a).isReadable_write

/-- A faithful schema has a faithful form. -/
@[simp] theorem form (h : s.Faithful) : s.form.Faithful where
  read_write := h.read_writeEntries
  isReadable_write a := Value.entriesReadable_iff.mpr (h.isReadable_writeEntries a)

theorem names_numbered : s.numbered.names = "descriptor_index" :: s.names := by
  rw [names, numbered, List.map_cons, List.map_map]
  rfl

/-- A record behind the index of its descriptor, if no field has the name of the index. -/
theorem numbered (h : s.Faithful) (hindex : "descriptor_index" ∉ s.names) :
    s.numbered.Faithful where
  nodup_names := by
    rw [names_numbered]
    exact List.nodup_cons.mpr ⟨hindex, h.nodup_names⟩
  required_subset := by
    rw [names_numbered]
    exact List.subset_cons_of_subset _ h.required_subset
  copies := by
    rintro ⟨index, a⟩
    exact (Copies.of_cons_iff Form.faithful_word16).mpr (h.copies a).second

end Faithful

end Schema

end AvbEntity.Document

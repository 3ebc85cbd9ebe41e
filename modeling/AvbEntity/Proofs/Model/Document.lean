import AvbEntity.Model.Tree
import AvbEntity.Proofs.Descriptor.Document

/-!
# Descriptor trees survive their documents

A tree that is written is read back as it was, with every configuration and every descriptor of
it. A document may spell a tree in many ways: it may leave fields out, have fields of its own, and
spell identifiers as it likes. Writing the tree that it is read as settles on one of them, which is
read as the same tree.

## Main results

* `Tree.faithful_form`: trees are read back
* `Tree.survives`: a tree is neither lost in its document nor taken for another one
-/

namespace AvbEntity.Tree

/-- The fields of a configuration account for all of it, its descriptors of every kind among it. -/
theorem Configuration.faithful_schema : Configuration.schema.Faithful where
  nodup_names := by decide
  required_subset := List.nil_subset _
  copies a := by simp [schema]

theorem faithful_schema : schema.Faithful where
  nodup_names := by decide
  required_subset := List.Subset.refl _
  copies a := by
    simp [schema, Descriptor.Entity.faithful_schema, Configuration.faithful_schema.form.list]

/-- Trees are read back. -/
theorem faithful_form : form.Faithful :=
  faithful_schema.form

/-- A written tree is read as the tree it was written from. So is the tree that any document is
read as, in whatever way the document spells it; and no document is written for two trees. -/
theorem survives :
    (∀ t, form.read (form.write t) = .ok t) ∧
      (∀ v, (form.read v >>= fun t => form.read (form.write t)) = form.read v) ∧
      Function.Injective form.write :=
  ⟨faithful_form.read_write, faithful_form.read_settles, faithful_form.write_injective⟩

end AvbEntity.Tree

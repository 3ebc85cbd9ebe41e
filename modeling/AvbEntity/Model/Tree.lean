import AvbEntity.Descriptor.Document

/-!
# Descriptor trees

The description of an entity as an integrator writes it: the ENTITY, and a list of configurations
with their descriptors. What the model derives itself may be left out of it.

## Main definitions

* `Tree`, `Tree.Configuration`: the tree and one of its configurations
* `Tree.form`: the form of a tree in documents
-/

namespace AvbEntity

open Document (Form Schema)

/-- One configuration of a tree. -/
structure Tree.Configuration where
  objectName : String := ""
  localizedDescription : UInt16 := 0
  descriptors : List Descriptor := []
  deriving DecidableEq

/-- The description of an entity. -/
structure Tree where
  entity : Descriptor.Entity := {}
  configurations : List Tree.Configuration := []
  deriving DecidableEq

namespace Tree

/-- The fields of a configuration in documents. -/
def Configuration.schema : Schema Configuration where
  blank := {}
  fields := [
    .of "object_name" .text (·.objectName) ({ · with objectName := · }),
    .of "localized_description" .word16 (·.localizedDescription)
      ({ · with localizedDescription := · }),
    .of "descriptors" (.list Descriptor.form) (·.descriptors) ({ · with descriptors := · })]

/-- The fields of a tree in documents; neither may be left out. -/
def schema : Schema Tree where
  blank := {}
  fields := [
    .of "entity" Descriptor.Entity.schema.form (·.entity) ({ · with entity := · }),
    .of "configurations" (.list Configuration.schema.form) (·.configurations)
      ({ · with configurations := · })]
  required := ["entity", "configurations"]

/-- The form of a tree. -/
def form : Form Tree :=
  schema.form

end Tree

end AvbEntity

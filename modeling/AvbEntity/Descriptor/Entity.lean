import AvbEntity.Descriptor.Array
import AvbEntity.Document.Form

/-!
# ENTITY and CONFIGURATION

The descriptor of the entity itself, and the one of a configuration, which counts the descriptors
that the configuration holds.

## Main definitions

* `Entity`, `Entity.layout`, `Entity.schema`
* `DescriptorCount`, `Summary`, `Summary.write`, `Summary.parse`, `Summary.schema`
-/

namespace AvbEntity.Descriptor

open Document (Form Schema)

/-- The body of an ENTITY descriptor. -/
structure Entity where
  entityId : Eui64 := .zero
  entityModelId : Eui64 := .zero
  entityCapabilities : UInt32 := 0
  talkerStreamSources : UInt16 := 0
  talkerCapabilities : UInt16 := 0
  listenerStreamSinks : UInt16 := 0
  listenerCapabilities : UInt16 := 0
  controllerCapabilities : UInt32 := 0
  availableIndex : UInt32 := 0
  associationId : Eui64 := .zero
  entityName : String := ""
  vendorNameString : UInt16 := 0
  modelNameString : UInt16 := 0
  firmwareVersion : String := ""
  groupName : String := ""
  serialNumber : String := ""
  configurationsCount : UInt16 := 0
  currentConfiguration : UInt16 := 0
  deriving DecidableEq

namespace Entity

/-- The 308 octets of the body. -/
def layout : Layout Entity :=
  .iso (Layout.eui64.pair <| Layout.eui64.pair <| Layout.word32.pair <| Layout.word16.pair <|
      Layout.word16.pair <| Layout.word16.pair <| Layout.word16.pair <| Layout.word32.pair <|
      Layout.word32.pair <| Layout.eui64.pair <| Layout.text.pair <| Layout.word16.pair <|
      Layout.word16.pair <| Layout.text.pair <| Layout.text.pair <| Layout.text.pair <|
      Layout.word16.pair Layout.word16)
    (fun (entityId, entityModelId, entityCapabilities, talkerStreamSources, talkerCapabilities,
        listenerStreamSinks, listenerCapabilities, controllerCapabilities, availableIndex,
        associationId, entityName, vendorNameString, modelNameString, firmwareVersion, groupName,
        serialNumber, configurationsCount, currentConfiguration) =>
      { entityId, entityModelId, entityCapabilities, talkerStreamSources, talkerCapabilities,
        listenerStreamSinks, listenerCapabilities, controllerCapabilities, availableIndex,
        associationId, entityName, vendorNameString, modelNameString, firmwareVersion, groupName,
        serialNumber, configurationsCount, currentConfiguration })
    (fun e => (e.entityId, e.entityModelId, e.entityCapabilities, e.talkerStreamSources,
      e.talkerCapabilities, e.listenerStreamSinks, e.listenerCapabilities,
      e.controllerCapabilities, e.availableIndex, e.associationId, e.entityName,
      e.vendorNameString, e.modelNameString, e.firmwareVersion, e.groupName, e.serialNumber,
      e.configurationsCount, e.currentConfiguration))

/-- The fields in documents. -/
def schema : Schema Entity where
  blank := {}
  fields := [
    .of "entity_id" .eui64 (·.entityId) ({ · with entityId := · }),
    .of "entity_model_id" .eui64 (·.entityModelId) ({ · with entityModelId := · }),
    .of "entity_capabilities" .word32 (·.entityCapabilities) ({ · with entityCapabilities := · }),
    .of "talker_stream_sources" .word16 (·.talkerStreamSources)
      ({ · with talkerStreamSources := · }),
    .of "talker_capabilities" .word16 (·.talkerCapabilities) ({ · with talkerCapabilities := · }),
    .of "listener_stream_sinks" .word16 (·.listenerStreamSinks)
      ({ · with listenerStreamSinks := · }),
    .of "listener_capabilities" .word16 (·.listenerCapabilities)
      ({ · with listenerCapabilities := · }),
    .of "controller_capabilities" .word32 (·.controllerCapabilities)
      ({ · with controllerCapabilities := · }),
    .of "available_index" .word32 (·.availableIndex) ({ · with availableIndex := · }),
    .of "association_id" .eui64 (·.associationId) ({ · with associationId := · }),
    .of "entity_name" .text (·.entityName) ({ · with entityName := · }),
    .of "vendor_name_string" .word16 (·.vendorNameString) ({ · with vendorNameString := · }),
    .of "model_name_string" .word16 (·.modelNameString) ({ · with modelNameString := · }),
    .of "firmware_version" .text (·.firmwareVersion) ({ · with firmwareVersion := · }),
    .of "group_name" .text (·.groupName) ({ · with groupName := · }),
    .of "serial_number" .text (·.serialNumber) ({ · with serialNumber := · }),
    .of "configurations_count" .word16 (·.configurationsCount)
      ({ · with configurationsCount := · }),
    .of "current_configuration" .word16 (·.currentConfiguration)
      ({ · with currentConfiguration := · })]

end Entity

/-- How many descriptors of one kind a configuration holds. -/
structure DescriptorCount where
  descriptorType : UInt16
  count : UInt16
  deriving DecidableEq

namespace DescriptorCount

/-- The type code in front of the count. -/
def layout : Layout DescriptorCount :=
  .iso (Layout.word16.pair Layout.word16)
    (fun (descriptorType, count) => { descriptorType, count })
    (fun c => (c.descriptorType, c.count))

/-- The fields in documents; neither may be left out. -/
def schema : Schema DescriptorCount where
  blank := ⟨0, 0⟩
  fields := [
    .of "descriptor_type" .word16 (·.descriptorType) ({ · with descriptorType := · }),
    .of "count" .word16 (·.count) ({ · with count := · })]
  required := ["descriptor_type", "count"]

end DescriptorCount

/-- The body of a CONFIGURATION descriptor. -/
structure Summary where
  objectName : String := ""
  localizedDescription : UInt16 := 0
  descriptorCounts : List DescriptorCount := []
  deriving DecidableEq

namespace Summary

/-- The fixed part: name, description, number of counts, and their offset. -/
def head : Layout (String × UInt16 × UInt16 × UInt16) :=
  Layout.text.pair <| Layout.word16.pair <| Layout.word16.pair Layout.word16

/-- Where the counts start. -/
def countsOffset : Nat :=
  headWidth + head.width

/-- The octets of the body. -/
def write (c : Summary) : Octets :=
  head.write (c.objectName, c.localizedDescription, countWord c.descriptorCounts,
    offsetWord countsOffset) ++
  DescriptorCount.layout.writeArray c.descriptorCounts

/-- The body at the start of octets. -/
def parse (bs : Octets) : Except DecodeError Summary := do
  let (objectName, localizedDescription, count, offset) ← head.parse bs
  checkOffset "descriptor_counts_offset" offset countsOffset
  let (descriptorCounts, _) ← DescriptorCount.layout.parseArray count (bs.drop head.width)
  return { objectName, localizedDescription, descriptorCounts }

/-- The fields in documents. -/
def schema : Schema Summary where
  blank := {}
  fields := [
    .of "object_name" .text (·.objectName) ({ · with objectName := · }),
    .of "localized_description" .word16 (·.localizedDescription)
      ({ · with localizedDescription := · }),
    .of "descriptor_counts" (.list DescriptorCount.schema.form) (·.descriptorCounts)
      ({ · with descriptorCounts := · })]

end Summary

end AvbEntity.Descriptor

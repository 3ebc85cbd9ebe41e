import AvbEntity.Descriptor.Unit

/-!
# JACK_INPUT, JACK_OUTPUT and AVB_INTERFACE

The places where signals and the network enter and leave the device.

## Main definitions

* `Jack`, `Jack.layout`, `Jack.schema`
* `AvbInterface`, `AvbInterface.layout`, `AvbInterface.schema`
-/

namespace AvbEntity.Descriptor

open Document (Form Schema)

/-- The body of a JACK_INPUT or JACK_OUTPUT descriptor. -/
structure Jack where
  objectName : String := ""
  localizedDescription : UInt16 := 0
  jackFlags : UInt16 := 0
  jackType : UInt16 := 0
  controls : Span := {}
  deriving DecidableEq

namespace Jack

/-- The 74 octets of the body. -/
def layout : Layout Jack :=
  .iso (Layout.text.pair <| Layout.word16.pair <| Layout.word16.pair <|
      Layout.word16.pair Span.layout)
    (fun (objectName, localizedDescription, jackFlags, jackType, controls) =>
      { objectName, localizedDescription, jackFlags, jackType, controls })
    (fun j => (j.objectName, j.localizedDescription, j.jackFlags, j.jackType, j.controls))

/-- The fields in documents. -/
def schema : Schema Jack where
  blank := {}
  fields := [
    .of "object_name" .text (·.objectName) ({ · with objectName := · }),
    .of "localized_description" .word16 (·.localizedDescription)
      ({ · with localizedDescription := · }),
    .of "jack_flags" .word16 (·.jackFlags) ({ · with jackFlags := · }),
    .of "jack_type" .word16 (·.jackType) ({ · with jackType := · }),
    .of "number_of_controls" .word16 (·.controls.count) ({ · with controls.count := · }),
    .of "base_control" .word16 (·.controls.base) ({ · with controls.base := · })]

end Jack

/-- The body of an AVB_INTERFACE descriptor. -/
structure AvbInterface where
  objectName : String := ""
  localizedDescription : UInt16 := 0
  macAddress : Mac := .zero
  interfaceFlags : UInt16 := 0
  clockIdentity : Eui64 := .zero
  priority1 : UInt8 := 0
  clockClass : UInt8 := 0
  offsetScaledLogVariance : UInt16 := 0
  clockAccuracy : UInt8 := 0
  priority2 : UInt8 := 0
  domainNumber : UInt8 := 0
  logSyncInterval : UInt8 := 0
  logAnnounceInterval : UInt8 := 0
  logPdelayInterval : UInt8 := 0
  portNumber : UInt16 := 0
  deriving DecidableEq

namespace AvbInterface

/-- The 94 octets of the body. -/
def layout : Layout AvbInterface :=
  .iso (Layout.text.pair <| Layout.word16.pair <| Layout.mac.pair <| Layout.word16.pair <|
      Layout.eui64.pair <| Layout.word8.pair <| Layout.word8.pair <| Layout.word16.pair <|
      Layout.word8.pair <| Layout.word8.pair <| Layout.word8.pair <| Layout.word8.pair <|
      Layout.word8.pair <| Layout.word8.pair Layout.word16)
    (fun (objectName, localizedDescription, macAddress, interfaceFlags, clockIdentity, priority1,
        clockClass, offsetScaledLogVariance, clockAccuracy, priority2, domainNumber,
        logSyncInterval, logAnnounceInterval, logPdelayInterval, portNumber) =>
      { objectName, localizedDescription, macAddress, interfaceFlags, clockIdentity, priority1,
        clockClass, offsetScaledLogVariance, clockAccuracy, priority2, domainNumber,
        logSyncInterval, logAnnounceInterval, logPdelayInterval, portNumber })
    (fun i => (i.objectName, i.localizedDescription, i.macAddress, i.interfaceFlags,
      i.clockIdentity, i.priority1, i.clockClass, i.offsetScaledLogVariance, i.clockAccuracy,
      i.priority2, i.domainNumber, i.logSyncInterval, i.logAnnounceInterval,
      i.logPdelayInterval, i.portNumber))

/-- The fields in documents. -/
def schema : Schema AvbInterface where
  blank := {}
  fields := [
    .of "object_name" .text (·.objectName) ({ · with objectName := · }),
    .of "localized_description" .word16 (·.localizedDescription)
      ({ · with localizedDescription := · }),
    .of "mac_address" .mac (·.macAddress) ({ · with macAddress := · }),
    .of "interface_flags" .word16 (·.interfaceFlags) ({ · with interfaceFlags := · }),
    .of "clock_identity" .eui64 (·.clockIdentity) ({ · with clockIdentity := · }),
    .of "priority1" .word8 (·.priority1) ({ · with priority1 := · }),
    .of "clock_class" .word8 (·.clockClass) ({ · with clockClass := · }),
    .of "offset_scaled_log_variance" .word16 (·.offsetScaledLogVariance)
      ({ · with offsetScaledLogVariance := · }),
    .of "clock_accuracy" .word8 (·.clockAccuracy) ({ · with clockAccuracy := · }),
    .of "priority2" .word8 (·.priority2) ({ · with priority2 := · }),
    .of "domain_number" .word8 (·.domainNumber) ({ · with domainNumber := · }),
    .of "log_sync_interval" .word8 (·.logSyncInterval) ({ · with logSyncInterval := · }),
    .of "log_announce_interval" .word8 (·.logAnnounceInterval)
      ({ · with logAnnounceInterval := · }),
    .of "log_pdelay_interval" .word8 (·.logPdelayInterval) ({ · with logPdelayInterval := · }),
    .of "port_number" .word16 (·.portNumber) ({ · with portNumber := · })]

end AvbInterface

end AvbEntity.Descriptor

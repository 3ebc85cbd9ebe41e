import AvbEntity.Document.Form
import AvbEntity.Settings.Basic

/-!
# Settings in documents

## Main definitions

* `Role.form`: the name of a role
* `Settings.form`: the form of the settings
-/

namespace AvbEntity

open Document (Form Schema Value)

/-- A role is written as its name. A record whose one entry has that name is read as the role too,
if its value says nothing; how that is said depends on the syntax of the document. -/
def Role.form (saysNothing : Value → Bool) : Form Role where
  write r := .text r.name
  read v :=
    let name? := match v with
      | .text s => some s
      | .record [(s, v)] => if saysNothing v then some s else none
      | _ => none
    match name?.bind ofName? with
    | some r => .ok r
    | none => .error .misfit

/-- The fields of the stream settings. -/
def StreamSettings.schema : Schema StreamSettings where
  blank := {}
  fields := [
    .of "unique_id" .word16 (·.uniqueId) ({ · with uniqueId := · }),
    .of "dest_mac" .mac (·.destMac) ({ · with destMac := · }),
    .of "vlan_id" .word16 (·.vlanId) ({ · with vlanId := · })]

namespace Settings

/-- The fields of the settings. -/
def schema (saysNothing : Value → Bool) : Schema Settings where
  blank := {}
  fields := [
    .of "interface" .text (·.interface) ({ · with interface := · }),
    .of "role" (Role.form saysNothing) (·.role) ({ · with role := · }),
    .of "entity_file" .text (·.entityFile) ({ · with entityFile := · }),
    .of "poll_interval_ms" .word64 (·.pollInterval) ({ · with pollInterval := · }),
    .of "valid_time" .word8 (·.validTime) ({ · with validTime := · }),
    .of "inflight_capacity" .word64 (·.inFlightCapacity) ({ · with inFlightCapacity := · }),
    .of "log_level" .text (·.logLevel) ({ · with logLevel := · }),
    .of "stream" (.optional StreamSettings.schema.form) (·.stream) ({ · with stream := · })]

/-- The form of the settings. -/
def form (saysNothing : Value → Bool) : Form Settings :=
  (schema saysNothing).form

end Settings

end AvbEntity

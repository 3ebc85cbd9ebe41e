import AvbEntity.Endpoint.Basic
import AvbEntity.Text.Blank

/-!
# Settings

What an integrator sets for an entity beside its description: the interface, the role, the timing
and the stream that it publishes as a talker.

## Main definitions

* `StreamSettings`, `Settings`: the settings, each with its default
* `SettingsError`, `Settings.check`: the values that are refused
* `Settings.options`: the settings of the endpoint
-/

namespace AvbEntity

/-- The stream that an entity publishes as a talker. -/
structure StreamSettings where
  /-- The number of the stream output. -/
  uniqueId : UInt16 := 0
  destMac : Mac := .ofNat 0x91E0F0000E80
  vlanId : UInt16 := 2
  deriving DecidableEq

/-- The settings of an entity. -/
structure Settings where
  /-- The network interface. -/
  interface : String := "eth0"
  role : Role := .both
  /-- The file of the descriptor tree. -/
  entityFile : String := "entity.toml"
  /-- The longest wait for a frame, in milliseconds. -/
  pollInterval : UInt64 := 1000
  /-- The announced lifetime in seconds. -/
  validTime : UInt8 := 31
  /-- The number of commands that may wait for a talker. -/
  inFlightCapacity : UInt64 := 4
  logLevel : String := "info"
  stream : Option StreamSettings := none
  deriving DecidableEq

/-- A setting whose value is refused, and why. -/
structure SettingsError where
  field : String
  reason : String
  deriving DecidableEq

/-- The wording of the error. -/
def SettingsError.message (e : SettingsError) : String :=
  "Invalid value for " ++ e.field ++ ": " ++ e.reason

namespace Settings

/-- Requires values that an entity can run with. -/
def check (s : Settings) : Except SettingsError Unit :=
  if s.interface.toList.all Text.isBlank then .error ⟨"interface", "must not be empty"⟩
  else if s.pollInterval = 0 then .error ⟨"poll_interval_ms", "must be at least 1"⟩
  else if s.validTime < 2 ∨ 62 < s.validTime then
    .error ⟨"valid_time", toString s.validTime.toNat ++ " is outside 2..=62 seconds"⟩
  else if s.inFlightCapacity = 0 then .error ⟨"inflight_capacity", "must be at least 1"⟩
  else .ok ()

/-- The settings of the endpoint. -/
def options (s : Settings) : Options :=
  { pollInterval := s.pollInterval.toNat
    validTime := s.validTime
    inFlightCapacity := s.inFlightCapacity.toNat }

end Settings

end AvbEntity

import AvbEntity.Octets
import AvbEntity.Text.Hex

/-!
# Faults of received octets

## Main definitions

* `DecodeError`: why octets are no PDU or descriptor
* `DecodeError.message`: the wording of the fault
-/

namespace AvbEntity

/-- Why octets are no PDU or no descriptor. -/
inductive DecodeError where
  /-- Fewer octets are left than the next part needs. -/
  | truncated (needed available : Nat)
  /-- The first bit, which marks control data, is clear. -/
  | notControl
  /-- The control data belongs to another sub-protocol. -/
  | unexpectedSubtype (subtype : UInt8)
  /-- The control data is of a later version. -/
  | unsupportedVersion (version : UInt8)
  /-- The sub-protocol has no message of this number. -/
  | unknownMessageType (number : UInt8)
  /-- No descriptor has this type code. -/
  | unknownDescriptorType (code : UInt16)
  /-- Descriptors of this type have no layout. -/
  | unsupportedDescriptor (code : UInt16)
  /-- An array starts elsewhere than the layout has it. -/
  | badOffset (field : String) (found expected : UInt16)
  deriving DecidableEq

namespace DecodeError

/-- A type code in four hexadecimal digits behind `0x`. -/
def codeText (code : UInt16) : String :=
  .ofList ('0' :: 'x' :: Text.Hex.padded 4 code.toNat)

/-- The wording of the fault. -/
def message : DecodeError → String
  | .truncated needed available =>
    "Truncated: need " ++ toString needed ++ " bytes, have " ++ toString available
  | .notControl => "Not an AVTP control frame"
  | .unexpectedSubtype subtype =>
    "Unexpected subtype: 0x" ++ .ofList (Text.Hex.padded 2 subtype.toNat)
  | .unsupportedVersion version => "Unsupported AVTP version: " ++ toString version.toNat
  | .unknownMessageType number => "Unknown message type: " ++ toString number.toNat
  | .unknownDescriptorType code => "Unknown descriptor type: " ++ codeText code
  | .unsupportedDescriptor code =>
    "Descriptor type " ++ codeText code ++ " has no wire format"
  | .badOffset field found expected =>
    "Field " ++ field ++ " at offset " ++ toString found.toNat ++ ", expected " ++
      toString expected.toNat

end DecodeError

/-- Requires at least `needed` octets. -/
def ensureLength (bs : Octets) (needed : Nat) : Except DecodeError Unit :=
  if bs.length < needed then .error (.truncated needed bs.length) else .ok ()

end AvbEntity

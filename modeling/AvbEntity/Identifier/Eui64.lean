import AvbEntity.Identifier.Mac

/-!
# EUI-64 identifiers

Entities, entity models, streams and clocks are named by 64-bit identifiers. Zero names nothing;
in a discovery request it stands for every entity.

## Main definitions

* `Eui64`: an identifier
* `Eui64.ofMac m`: the entity identifier derived from an interface address
* `Eui64.ofStream m i`: the stream identifier of the stream `i` of an interface
* `Eui64.text`: the written form, `0x001b21fffe010203`
-/

namespace AvbEntity

/-- A 64-bit identifier. -/
structure Eui64 where
  /-- The identifier as a word. -/
  bits : UInt64
  deriving DecidableEq

namespace Eui64

/-- The identifier of the low 64 bits of a number. -/
def ofNat (n : Nat) : Eui64 :=
  ⟨.ofNat n⟩

/-- The identifier as a number. -/
def toNat (x : Eui64) : Nat :=
  x.bits.toNat

/-- The identifier that names nothing. -/
def zero : Eui64 :=
  ofNat 0

instance : Inhabited Eui64 := ⟨zero⟩

/-- The identifier names nothing. -/
def isZero (x : Eui64) : Bool :=
  x.bits == 0

/-- The address with `FF FE` put between its third and its fourth octet. -/
def ofMac (m : Mac) : Eui64 :=
  ofNat (m.toNat / 0x1000000 * 0x10000000000 + 0xFFFE000000 + m.toNat % 0x1000000)

/-- The address followed by the number of the stream. -/
def ofStream (m : Mac) (uniqueId : UInt16) : Eui64 :=
  ofNat (m.toNat * 0x10000 + uniqueId.toNat)

/-- Sixteen lower-case hexadecimal digits behind `0x`. -/
def text (x : Eui64) : String :=
  .ofList ('0' :: 'x' :: Text.Hex.padded 16 x.toNat)

end Eui64

end AvbEntity

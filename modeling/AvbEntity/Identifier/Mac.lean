import AvbEntity.Octets
import AvbEntity.Text.Hex

/-!
# MAC addresses

The 48-bit address of a network interface or of a group of them.

## Main definitions

* `Mac`: an address
* `Mac.ofNat n`, `Mac.toNat`, `Mac.octets`: an address as a number and as octets
* `Mac.isMulticast`: the address names a group
* `Mac.text`: the written form, `91:e0:f0:00:0e:80`
* `Mac.discoveryGroup`: the group that hears discovery and connection management
-/

namespace AvbEntity

/-- A 48-bit interface or group address. -/
structure Mac where
  /-- The address, most significant octet first. -/
  bits : BitVec 48
  deriving DecidableEq

namespace Mac

/-- The address of the low 48 bits of a number. -/
def ofNat (n : Nat) : Mac :=
  ⟨.ofNat 48 n⟩

/-- The address as a number. -/
def toNat (m : Mac) : Nat :=
  m.bits.toNat

/-- The address with all bits clear. -/
def zero : Mac :=
  ofNat 0

instance : Inhabited Mac := ⟨zero⟩

/-- The six octets of the address. -/
def octets (m : Mac) : Octets :=
  Octets.ofNat 6 m.toNat

/-- The lowest bit of the first octet marks a group address. -/
def isMulticast (m : Mac) : Bool :=
  m.bits.getLsbD 40

/-- The octets in two lower-case hexadecimal digits each, colons between them. -/
def text (m : Mac) : String :=
  .intercalate ":" (m.octets.map fun b => .ofList (Text.Hex.padded 2 b.toNat))

/-- The group that hears discovery and connection management. -/
def discoveryGroup : Mac :=
  ofNat 0x91E0F0010000

end Mac

end AvbEntity

import AvbEntity.Wire.Layout

/-!
# Trailing arrays of descriptors

A descriptor may end in arrays. Its fixed part holds, for each, the offset from the start of the
descriptor and the number of entries, both of 16 bits. The offsets are those that follow from the
layout; no other is accepted.

## Main definitions

* `countWord xs`, `offsetWord n`: a number of entries and an offset as written
* `checkOffset`: the offset read is the one that the layout has
-/

namespace AvbEntity.Descriptor

/-- The octets in front of the body of every descriptor: its type and its index. -/
def headWidth : Nat :=
  4

/-- The number of entries as written, which keeps 16 bits of it. -/
def countWord {α : Type} (xs : List α) : UInt16 :=
  .ofNat xs.length

/-- An offset as written, which keeps 16 bits of it. -/
def offsetWord (n : Nat) : UInt16 :=
  .ofNat n

/-- Requires the offset of the layout. -/
def checkOffset (field : String) (found : UInt16) (expected : Nat) : Except DecodeError Unit :=
  if found.toNat = expected then .ok ()
  else .error (.badOffset field found (offsetWord expected))

end AvbEntity.Descriptor

/-!
# Octets and big-endian numbers

Every number on the wire is written with its most significant octet first.

## Main definitions

* `Octets`: a sequence of octets
* `Octets.ofNat w n`: the last `w` base-256 digits of `n`
* `Octets.toNat bs`: the number whose base-256 digits are `bs`

## Main results

* `Octets.length_ofNat`: a number is written in exactly the octets asked for
-/

namespace AvbEntity

/-- A sequence of octets. -/
abbrev Octets := List UInt8

namespace Octets

/-- The last `w` base-256 digits of `n`, the most significant first. -/
def ofNat : (w : Nat) → Nat → Octets
  | 0, _ => []
  | w + 1, n => ofNat w (n / 256) ++ [UInt8.ofNat n]

/-- The number whose base-256 digits are the octets, the most significant first. -/
def toNat (bs : Octets) : Nat :=
  bs.foldl (fun n b => n * 256 + b.toNat) 0

@[simp] theorem length_ofNat (w n : Nat) : (ofNat w n).length = w := by
  induction w generalizing n with
  | zero => rfl
  | succ w ih => simp [ofNat, ih]

end Octets

end AvbEntity

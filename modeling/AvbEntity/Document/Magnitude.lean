/-!
# The range of floating point

A document may hold numbers that no floating point number of 64 bits is near to. Whether it does is
decided exactly, on the decimal digits.

## Main definitions

* `Magnitude.isDigit`, `Magnitude.ofDigits`: decimal digits
* `Magnitude.exceedsDouble`: a decimal number is rounded to infinity
-/

namespace AvbEntity.Document.Magnitude

/-- A decimal digit. -/
def isDigit (c : Char) : Bool :=
  '0' ≤ c && c ≤ '9'

/-- The number that decimal digits spell. -/
def ofDigits (cs : List Char) : Nat :=
  cs.foldl (fun n c => n * 10 + (c.toNat - 48)) 0

/-- Half a step above the greatest finite number of 64 bits. -/
def doubleBound : Nat :=
  1 <<< 1024 - 1 <<< 970

/-- The number `mantissa * 10 ^ exponent` is rounded to infinity. Numbers that are far from the
bound are told by their number of digits. -/
def exceedsDouble (mantissa : Nat) (exponent : Int) : Bool :=
  let magnitude := (Nat.toDigits 10 mantissa).length + exponent
  if mantissa = 0 ∨ magnitude < 309 then false
  else if 310 < magnitude then true
  else doubleBound * Nat.pow 10 (-exponent).toNat ≤ mantissa * Nat.pow 10 exponent.toNat

end AvbEntity.Document.Magnitude

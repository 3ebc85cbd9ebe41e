/-!
# Hexadecimal numerals

Numerals to base 16: written in lower case to a fixed number of digits or to as few as the number
needs, and read in either case. A numeral that is read may carry one plus sign in front.

## Main definitions

* `digit n`, `digitValue? c`: one digit written and read
* `padded w n`: the last `w` digits of `n`
* `shortest n`: the digits of `n` without leading zeros
* `read? cs`: the number that `cs` spells
-/

namespace AvbEntity.Text.Hex

/-- The lower-case digit of a number below 16. -/
def digit (n : Nat) : Char :=
  if n < 10 then Char.ofNat (48 + n) else Char.ofNat (87 + n)

/-- The value of a digit of either case. -/
def digitValue? (c : Char) : Option Nat :=
  let n := c.toNat
  if 48 ≤ n ∧ n ≤ 57 then some (n - 48)
  else if 97 ≤ n ∧ n ≤ 102 then some (n - 87)
  else if 65 ≤ n ∧ n ≤ 70 then some (n - 55)
  else none

/-- The last `w` digits of `n`, the most significant first. -/
def padded : (w : Nat) → Nat → List Char
  | 0, _ => []
  | w + 1, n => padded w (n / 16) ++ [digit (n % 16)]

/-- The digits of `n` without leading zeros; zero is one digit. -/
def shortest (n : Nat) : List Char :=
  Nat.toDigits 16 n

/-- The number spelled by digits alone. -/
def readDigits? (cs : List Char) : Option Nat :=
  cs.foldlM (fun n c => (digitValue? c).map (n * 16 + ·)) 0

/-- The number spelled by at least one digit behind an optional plus sign. -/
def read? (cs : List Char) : Option Nat :=
  let digits := match cs with
    | '+' :: rest => rest
    | _ => cs
  if digits.isEmpty then none else readDigits? digits

end AvbEntity.Text.Hex

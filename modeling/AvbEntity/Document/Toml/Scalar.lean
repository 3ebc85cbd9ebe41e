import AvbEntity.Document.Magnitude
import AvbEntity.Document.Value

/-!
# Unquoted values of TOML

An unquoted value is a word, a number or a moment. It is judged as a whole: `1979-05-27` is a date
and `1979` a number.

## Main definitions

* `ungroup?`: digits that may be grouped by underscores
* `integer?`, `isFloat`, `isMoment`: the kinds of unquoted values
* `scalar?`: the value of an unquoted text
-/

namespace AvbEntity.Document.Toml

/-- Digits, each underscore between two of them left out. -/
def ungroup? (isDigit : Char → Bool) : List Char → Option (List Char)
  | [] => none
  | [c] => if isDigit c then some [c] else none
  | c :: '_' :: rest => if isDigit c then (ungroup? isDigit rest).map (c :: ·) else none
  | c :: rest => if isDigit c then (ungroup? isDigit rest).map (c :: ·) else none

/-- The text behind an optional sign, and whether the sign is a minus. -/
def splitSign : List Char → Bool × List Char
  | '-' :: rest => (true, rest)
  | '+' :: rest => (false, rest)
  | cs => (false, cs)

/-- Decimal digits without a leading zero. -/
def decimal? (cs : List Char) : Option (List Char) :=
  if cs.head? == some '0' && cs.length != 1 then none else ungroup? Magnitude.isDigit cs

/-- The number of digits to a base. -/
def ofDigits (base : Nat) (cs : List Char) : Nat :=
  cs.foldl (fun n c => n * base + (Text.Hex.digitValue? c).getD 0) 0

/-- The number written behind a base sign. -/
def based? (base : Nat) (cs : List Char) : Option Int :=
  (ungroup? (fun c => (Text.Hex.digitValue? c).any (· < base)) cs).map fun ds =>
    Int.ofNat (ofDigits base ds)

/-- The number of an integer, of any size. -/
def unbounded? : List Char → Option Int
  | '0' :: 'x' :: rest => based? 16 rest
  | '0' :: 'o' :: rest => based? 8 rest
  | '0' :: 'b' :: rest => based? 2 rest
  | cs =>
    let (negative, rest) := splitSign cs
    (decimal? rest).map fun ds =>
      if negative then -Int.ofNat (ofDigits 10 ds) else Int.ofNat (ofDigits 10 ds)

/-- The number of an integer of 64 bits with sign. -/
def integer? (cs : List Char) : Option Int :=
  (unbounded? cs).filter fun n => -0x8000000000000000 ≤ n && n < 0x8000000000000000

/-- The exponent behind `e`. -/
def exponent? (cs : List Char) : Option Int :=
  let (negative, rest) := splitSign cs
  (ungroup? Magnitude.isDigit rest).map fun ds =>
    if negative then -Int.ofNat (ofDigits 10 ds) else Int.ofNat (ofDigits 10 ds)

/-- The exponent behind `e` or `E`, if any follows. -/
def optionalExponent? : List Char → Option Int
  | [] => some 0
  | e :: rest => if e == 'e' || e == 'E' then exponent? rest else none

/-- A digit, or an underscore between digits. -/
def isGrouped (c : Char) : Bool :=
  Magnitude.isDigit c || c == '_'

/-- The mantissa and the exponent of a number with a fraction or an exponent, without sign. -/
def decimalParts? (cs : List Char) : Option (Nat × Int) := do
  let whole ← decimal? (cs.takeWhile isGrouped)
  match cs.dropWhile isGrouped with
  | [] => none
  | '.' :: rest =>
    let fraction ← ungroup? Magnitude.isDigit (rest.takeWhile isGrouped)
    let exponent ← optionalExponent? (rest.dropWhile isGrouped)
    return (ofDigits 10 (whole ++ fraction), exponent - fraction.length)
  | rest => return (ofDigits 10 whole, ← optionalExponent? rest)

/-- A number with a fraction or an exponent, infinity, or no number. A positive number beyond the
range of floating point is none. -/
def isFloat (cs : List Char) : Bool :=
  let (negative, rest) := splitSign cs
  rest == ['i', 'n', 'f'] || rest == ['n', 'a', 'n'] ||
    (decimalParts? rest).any fun (mantissa, exponent) =>
      negative || !Magnitude.exceedsDouble mantissa exponent

/-- The number of digits alone. -/
def digits? (cs : List Char) : Option Nat :=
  if cs.all Magnitude.isDigit then some (ofDigits 10 cs) else none

/-- The number of days of a month. -/
def daysIn (year month : Nat) : Nat :=
  match month with
  | 2 => if year % 4 = 0 ∧ (year % 100 ≠ 0 ∨ year % 400 = 0) then 29 else 28
  | 4 | 6 | 9 | 11 => 30
  | _ => 31

/-- A date, `1979-05-27`. -/
def isDate : List Char → Bool
  | [y₁, y₂, y₃, y₄, '-', m₁, m₂, '-', d₁, d₂] =>
    match digits? [y₁, y₂, y₃, y₄], digits? [m₁, m₂], digits? [d₁, d₂] with
    | some year, some month, some day =>
      1 ≤ month && month ≤ 12 && 1 ≤ day && day ≤ daysIn year month
    | _, _, _ => false
  | _ => false

/-- Two digits below a bound. -/
def isBelow (bound : Nat) (c₁ c₂ : Char) : Bool :=
  (digits? [c₁, c₂]).any (· < bound)

/-- The offset of a time from the universal one, if any follows. -/
def isOffset : List Char → Bool
  | [] | ['Z'] | ['z'] => true
  | [sign, h₁, h₂, ':', m₁, m₂] =>
    (sign == '+' || sign == '-') && isBelow 24 h₁ h₂ && isBelow 60 m₁ m₂
  | _ => false

/-- A time, `07:32:00` or `07:32:00.5`, with something behind it. -/
def isTime (behind : List Char → Bool) : List Char → Bool
  | h₁ :: h₂ :: ':' :: m₁ :: m₂ :: ':' :: s₁ :: s₂ :: rest =>
    isBelow 24 h₁ h₂ && isBelow 60 m₁ m₂ && isBelow 61 s₁ s₂ &&
      match rest with
      | '.' :: f :: rest =>
        Magnitude.isDigit f && behind (rest.dropWhile Magnitude.isDigit)
      | rest => behind rest
  | _ => false

/-- A date, a time, or both with an optional offset. -/
def isMoment (cs : List Char) : Bool :=
  isDate cs || isTime (·.isEmpty) cs ||
    match cs.drop 10 with
    | delimiter :: time =>
      (delimiter == 'T' || delimiter == 't' || delimiter == ' ') && isDate (cs.take 10) &&
        isTime isOffset time
    | [] => false

/-- A moment stands in a document as a record of its own kind, with no field of any other. -/
def moment (cs : List Char) : Value :=
  .record [("moment", .text (.ofList cs))]

/-- The value of an unquoted text. -/
def scalar? (cs : List Char) : Option Value :=
  if cs == ['t', 'r', 'u', 'e'] then some (.bool true)
  else if cs == ['f', 'a', 'l', 's', 'e'] then some (.bool false)
  else if isMoment cs then some (moment cs)
  else if isFloat cs then some .real
  else (integer? cs).map .integer

end AvbEntity.Document.Toml

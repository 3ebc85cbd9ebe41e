import AvbEntity.Identifier.Eui64
import AvbEntity.Text.Blank

/-!
# Spellings of identifiers

An identifier is spelled as one hexadecimal numeral behind `0x` or `0X`, or as octets of two
characters each, with a colon or a hyphen between any two of them. White space around a spelling
is no part of it. The numeral, and each octet, may start with a plus sign.

## Main definitions

* `Eui64.parse s`, `Mac.parse s`: the identifier that a text spells
* `SpellingError`: what a text fails to spell
-/

namespace AvbEntity

/-- A text that spells no identifier, without the white space around it. -/
inductive SpellingError where
  | eui64 (text : String)
  | mac (text : String)
  deriving DecidableEq

/-- The wording of the error. -/
def SpellingError.message : SpellingError → String
  | .eui64 text => "Invalid EUI-64: " ++ text
  | .mac text => "Invalid MAC address: " ++ text

namespace Spelling

/-- The parts of a text between colons and hyphens. -/
def parts : List Char → List (List Char)
  | [] => [[]]
  | c :: rest =>
    if c == ':' || c == '-' then [] :: parts rest
    else match parts rest with
      | [] => [[c]]
      | part :: more => (c :: part) :: more

/-- The octet spelled by two characters. -/
def octet? (cs : List Char) : Option UInt8 :=
  if cs.length = 2 then (Text.Hex.read? cs).map UInt8.ofNat else none

/-- The number spelled by exactly `count` octets. -/
def octets? (count : Nat) (cs : List Char) : Option Nat :=
  if (parts cs).length = count then ((parts cs).mapM octet?).map Octets.toNat else none

/-- The number spelled by a numeral below `2 ^ (8 * count)` or by `count` octets. -/
def number? (count : Nat) : List Char → Option Nat
  | '0' :: 'x' :: digits | '0' :: 'X' :: digits =>
    (Text.Hex.read? digits).filter (· < 1 <<< (8 * count))
  | cs => octets? count cs

end Spelling

/-- The EUI-64 that a text spells. -/
def Eui64.parse (s : String) : Except SpellingError Eui64 :=
  let cs := Text.trimChars s.toList
  match Spelling.number? 8 cs with
  | some n => .ok (.ofNat n)
  | none => .error (.eui64 (.ofList cs))

/-- The MAC address that a text spells. -/
def Mac.parse (s : String) : Except SpellingError Mac :=
  let cs := Text.trimChars s.toList
  match Spelling.number? 6 cs with
  | some n => .ok (.ofNat n)
  | none => .error (.mac (.ofList cs))

end AvbEntity

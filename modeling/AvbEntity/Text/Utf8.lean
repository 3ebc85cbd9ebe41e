import AvbEntity.Octets

/-!
# UTF-8

Texts are carried in UTF-8. Reading splits octets into characters and faults: a fault is the
longest run of octets that begins a character and is cut off before its end, or else one octet
that begins none. A text field of the wire is read with every fault replaced by U+FFFD; a document
is read only when it has no fault.

## Main definitions

* `Utf8.encode s`: the octets of a text
* `Utf8.pieces bs`: the characters and faults of octets, a fault as `none`
* `Utf8.repair bs`: the text with every fault replaced
* `Utf8.decode? bs`: the text, when there is no fault
-/

namespace AvbEntity.Utf8

/-- The octets of a text. -/
def encode (s : String) : Octets :=
  s.toList.flatMap String.utf8EncodeChar

/-- How a character goes on after its first octet. -/
inductive Lead where
  /-- The octet is a character by itself. -/
  | whole
  /-- One continuation octet follows. -/
  | two
  /-- Two follow, the first of them from `low` to `high`. -/
  | three (low high : Nat)
  /-- Three follow, the first of them from `low` to `high`. -/
  | four (low high : Nat)
  /-- No character begins so. -/
  | none

/-- The kind of a first octet; the bounds keep out overlong forms, surrogates and numbers above
U+10FFFF. -/
def Lead.of (b : Nat) : Lead :=
  if b < 0x80 then .whole
  else if b < 0xC2 then .none
  else if b < 0xE0 then .two
  else if b = 0xE0 then .three 0xA0 0xBF
  else if b = 0xED then .three 0x80 0x9F
  else if b < 0xF0 then .three 0x80 0xBF
  else if b = 0xF0 then .four 0x90 0xBF
  else if b < 0xF4 then .four 0x80 0xBF
  else if b = 0xF4 then .four 0x80 0x8F
  else .none

/-- The octet lies between the bounds. -/
def within (low high : Nat) (b : UInt8) : Bool :=
  low ≤ b.toNat && b.toNat ≤ high

/-- A continuation octet. -/
def isTail (b : UInt8) : Bool :=
  within 0x80 0xBF b

/-- The six payload bits of a continuation octet. -/
def tailBits (b : UInt8) : Nat :=
  b.toNat % 64

/-- The characters and faults of octets, in order; a fault is `none`. -/
def pieces : Octets → List (Option Char)
  | [] => []
  | a :: rest =>
    match Lead.of a.toNat with
    | .whole => some (Char.ofNat a.toNat) :: pieces rest
    | .none => none :: pieces rest
    | .two =>
      match rest with
      | [] => [none]
      | b :: rest₁ =>
        if isTail b then some (Char.ofNat (a.toNat % 32 * 64 + tailBits b)) :: pieces rest₁
        else none :: pieces (b :: rest₁)
    | .three low high =>
      match rest with
      | [] => [none]
      | b :: rest₁ =>
        if within low high b then
          match rest₁ with
          | [] => [none]
          | c :: rest₂ =>
            if isTail c then
              some (Char.ofNat ((a.toNat % 16 * 64 + tailBits b) * 64 + tailBits c)) :: pieces rest₂
            else none :: pieces (c :: rest₂)
        else none :: pieces (b :: rest₁)
    | .four low high =>
      match rest with
      | [] => [none]
      | b :: rest₁ =>
        if within low high b then
          match rest₁ with
          | [] => [none]
          | c :: rest₂ =>
            if isTail c then
              match rest₂ with
              | [] => [none]
              | d :: rest₃ =>
                if isTail d then
                  some (Char.ofNat (((a.toNat % 8 * 64 + tailBits b) * 64 + tailBits c) * 64 +
                    tailBits d)) :: pieces rest₃
                else none :: pieces (d :: rest₃)
            else none :: pieces (c :: rest₂)
        else none :: pieces (b :: rest₁)

/-- The text with U+FFFD in place of every fault. -/
def repair (bs : Octets) : String :=
  .ofList ((pieces bs).map (·.getD '\uFFFD'))

/-- The text of octets without fault. -/
def decode? (bs : Octets) : Option String :=
  ((pieces bs).mapM id).map .ofList

end AvbEntity.Utf8

/-!
# White space around a text

The characters of the Unicode property `White_Space`, and the removal of a run of them at both
ends of a text. Identifiers and interface names are read without the blanks around them.

## Main definitions

* `isBlank c`: the character has the property
* `trim s`: the text without the blanks at either end
-/

namespace AvbEntity.Text

/-- The characters with the Unicode property `White_Space`. -/
def isBlank (c : Char) : Bool :=
  let n := c.toNat
  (0x09 ≤ n && n ≤ 0x0D) || n == 0x20 || n == 0x85 || n == 0xA0 || n == 0x1680 ||
    (0x2000 ≤ n && n ≤ 0x200A) || n == 0x2028 || n == 0x2029 || n == 0x202F || n == 0x205F ||
    n == 0x3000

/-- The characters of a text without the blanks at either end. -/
def trimChars (cs : List Char) : List Char :=
  ((cs.dropWhile isBlank).reverse.dropWhile isBlank).reverse

/-- The text without the blanks at either end. -/
def trim (s : String) : String :=
  .ofList (trimChars s.toList)

end AvbEntity.Text

import AvbEntity.Descriptor.Array
import AvbEntity.Document.Form

/-!
# LOCALE and STRINGS

A locale points at STRINGS descriptors, each of which carries seven texts.

## Main definitions

* `Locale`, `Locale.layout`, `Locale.schema`
* `Strings`, `Strings.layout`, `Strings.schema`
-/

namespace AvbEntity.Descriptor

open Document (Form Schema)

/-- The body of a LOCALE descriptor. -/
structure Locale where
  localeIdentifier : String := ""
  numberOfStrings : UInt16 := 0
  baseStrings : UInt16 := 0
  deriving DecidableEq

namespace Locale

/-- The 68 octets of the body. -/
def layout : Layout Locale :=
  .iso (Layout.text.pair <| Layout.word16.pair Layout.word16)
    (fun (localeIdentifier, numberOfStrings, baseStrings) =>
      { localeIdentifier, numberOfStrings, baseStrings })
    (fun l => (l.localeIdentifier, l.numberOfStrings, l.baseStrings))

/-- The fields in documents. -/
def schema : Schema Locale where
  blank := {}
  fields := [
    .of "locale_identifier" .text (·.localeIdentifier) ({ · with localeIdentifier := · }),
    .of "number_of_strings" .word16 (·.numberOfStrings) ({ · with numberOfStrings := · }),
    .of "base_strings" .word16 (·.baseStrings) ({ · with baseStrings := · })]

end Locale

/-- The body of a STRINGS descriptor. -/
structure Strings where
  strings : List String := []
  deriving DecidableEq

namespace Strings

/-- The number of texts in every STRINGS descriptor. -/
def capacity : Nat :=
  7

/-- The 448 octets of the body: a missing text is written as the empty one, and a text beyond the
seventh is left out. -/
def layout : Layout Strings :=
  .iso (Layout.text.vector capacity) (fun texts => { strings := texts.toList })
    (fun s => .ofFn fun i => s.strings[i.val]?.getD "")

/-- The fields in documents. -/
def schema : Schema Strings where
  blank := {}
  fields := [.of "strings" (.list .text) (·.strings) ({ · with strings := · })]

end Strings

end AvbEntity.Descriptor

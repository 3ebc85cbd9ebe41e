import AvbEntity.Identifier.Eui64
import AvbEntity.Text.Utf8
import AvbEntity.Wire.Error

/-!
# Layouts

A layout is a fixed-width part of a PDU or descriptor: how its value is written, and what value
its octets have. Layouts are put one after another by `pair` and given the shape of a record by
`iso`. Reading is total, so that the one length check stands in front of a whole layout.

## Main definitions

* `Layout α`: a part of fixed width with values in `α`
* `Layout.word8` to `word64`, `eui64`, `mac`, `text`, `reserved`: the elementary parts
* `Layout.pair`, `Layout.iso`, `Layout.vector`: the composite ones
* `Layout.parse`: the value at the start of octets that may be too few
* `Layout.parseArray`: the values of a trailing array, and what follows it
-/

namespace AvbEntity

/-- A part of fixed width with values in `α`. -/
structure Layout (α : Type) where
  /-- The number of octets. -/
  width : Nat
  /-- The octets of a value. -/
  write : α → Octets
  /-- The value at the start of at least `width` octets. -/
  read : Octets → α
  /-- Every value takes up the whole width. -/
  length_write : ∀ a, (write a).length = width

namespace Layout

variable {α β : Type}

/-- The number that the first `w` octets have. -/
def number (w : Nat) (bs : Octets) : Nat :=
  Octets.toNat (bs.take w)

/-- One octet. -/
def word8 : Layout UInt8 where
  width := 1
  write x := Octets.ofNat 1 x.toNat
  read bs := .ofNat (number 1 bs)
  length_write _ := Octets.length_ofNat ..

/-- A number of two octets. -/
def word16 : Layout UInt16 where
  width := 2
  write x := Octets.ofNat 2 x.toNat
  read bs := .ofNat (number 2 bs)
  length_write _ := Octets.length_ofNat ..

/-- A number of four octets. -/
def word32 : Layout UInt32 where
  width := 4
  write x := Octets.ofNat 4 x.toNat
  read bs := .ofNat (number 4 bs)
  length_write _ := Octets.length_ofNat ..

/-- A number of eight octets. -/
def word64 : Layout UInt64 where
  width := 8
  write x := Octets.ofNat 8 x.toNat
  read bs := .ofNat (number 8 bs)
  length_write _ := Octets.length_ofNat ..

/-- An EUI-64. -/
def eui64 : Layout Eui64 where
  width := 8
  write x := Octets.ofNat 8 x.toNat
  read bs := .ofNat (number 8 bs)
  length_write _ := Octets.length_ofNat ..

/-- A MAC address. -/
def mac : Layout Mac where
  width := 6
  write m := m.octets
  read bs := .ofNat (number 6 bs)
  length_write _ := Octets.length_ofNat ..

/-- Octets without meaning: written as zero and read as anything. -/
def reserved (w : Nat) : Layout Unit where
  width := w
  write _ := .replicate w 0
  read _ := ()
  length_write _ := List.length_replicate

/-- The width of every text field. -/
def textWidth : Nat :=
  64

/-- A text of at most 64 octets, filled up with zeros: a longer one is cut after 64 octets, and
reading ends at the first zero. -/
def text : Layout String where
  width := textWidth
  write s :=
    let bs := (Utf8.encode s).take textWidth
    bs ++ .replicate (textWidth - bs.length) 0
  read bs := Utf8.repair ((bs.take textWidth).takeWhile (· != 0))
  length_write s := by
    simp only [List.length_append, List.length_replicate, List.length_take]
    omega

/-- One part after another. -/
def pair (l : Layout α) (r : Layout β) : Layout (α × β) where
  width := l.width + r.width
  write p := l.write p.1 ++ r.write p.2
  read bs := (l.read bs, r.read (bs.drop l.width))
  length_write p := by rw [List.length_append, l.length_write, r.length_write]

/-- The same octets for values of another shape. -/
def iso (l : Layout α) (make : α → β) (back : β → α) : Layout β where
  width := l.width
  write b := l.write (back b)
  read bs := make (l.read bs)
  length_write b := l.length_write (back b)

/-- The same part `n` times over. -/
def vector (l : Layout α) (n : Nat) : Layout (Vector α n) where
  width := n * l.width
  write v := v.toList.flatMap l.write
  read bs := .ofFn fun i => l.read (bs.drop (i * l.width))
  length_write v := by
    have h : ∀ xs : List α, (xs.flatMap l.write).length = xs.length * l.width := by
      intro xs
      induction xs with
      | nil => simp
      | cons x xs ih =>
        rw [List.flatMap_cons, List.length_append, l.length_write, ih, List.length_cons,
          Nat.succ_mul, Nat.add_comm]
    rw [h, Vector.length_toList]

/-- The value at the start of octets that may be too few. -/
def parse (l : Layout α) (bs : Octets) : Except DecodeError α := do
  ensureLength bs l.width
  return l.read bs

/-- The octets of an array. -/
def writeArray (l : Layout α) (xs : List α) : Octets :=
  xs.flatMap l.write

/-- The first `count` values. -/
def readArray (l : Layout α) (count : Nat) (bs : Octets) : List α :=
  match count with
  | 0 => []
  | n + 1 => l.read bs :: readArray l n (bs.drop l.width)

/-- The values of an array of `count` entries, and the octets after it. -/
def parseArray (l : Layout α) (count : UInt16) (bs : Octets) :
    Except DecodeError (List α × Octets) := do
  ensureLength bs (count.toNat * l.width)
  return (l.readArray count.toNat bs, bs.drop (count.toNat * l.width))

end Layout

end AvbEntity

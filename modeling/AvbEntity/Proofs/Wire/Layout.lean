import AvbEntity.Descriptor.Array
import AvbEntity.Proofs.Text.Utf8
import AvbEntity.Proofs.Wire.Codec

/-!
# Reading back what layouts keep

A text field keeps a text up to its first NUL, and all other elementary layouts keep everything.
What a composite layout keeps follows from its parts, and a trailing array is read back with the
number of its entries and what follows it.

## Main definitions

* `Layout.ReadsBack`: a value is read back as another one

## Main results

* `Layout.readsBack_text`: what a text field keeps
* `Layout.ReadsBack.pair`, `Layout.ReadsBack.iso`, `Layout.ReadsBack.vector`: the composite layouts
* `Layout.ReadsBack.parse`: the value at the start of what was written
* `Layout.parseArray_writeArray`: the array at the start of what was written
-/

namespace AvbEntity

namespace Layout

variable {α β : Type}

theorem faithful_word64 : word64.Faithful := by
  intro a rest
  apply UInt64.toNat_inj.mp
  simp only [word64, number_ofNat_append, UInt64.toNat_ofNat']
  have := a.toNat_lt
  omega

/-- The value `a` is read back as `b`, whatever follows its octets. -/
def ReadsBack (l : Layout α) (a b : α) : Prop :=
  ∀ rest, l.read (l.write a ++ rest) = b

/-- A text that fits into its field is read back up to its first NUL. -/
theorem readsBack_text {s : String} (h : s.utf8ByteSize ≤ textWidth) :
    text.ReadsBack s (Utf8.beforeNul s) := by
  intro rest
  have hwhole : (Utf8.encode s).take textWidth = Utf8.encode s :=
    List.take_of_length_le (Utf8.length_encode s ▸ h)
  have hfield : (text.write s ++ rest).take textWidth =
      Utf8.encode s ++ .replicate (textWidth - (Utf8.encode s).length) 0 := by
    refine (List.take_left' (text.length_write s)).trans ?_
    simp only [text, hwhole]
  show Utf8.repair (((text.write s ++ rest).take textWidth).takeWhile (· != 0)) = _
  rw [hfield, Utf8.takeWhile_encode, Utf8.repair_encode]

@[simp] theorem drop_write_append (l : Layout α) (a : α) (rest : Octets) :
    (l.write a ++ rest).drop l.width = rest :=
  List.drop_left' (l.length_write a)

namespace ReadsBack

theorem pair {l : Layout α} {r : Layout β} {a a' : α} {b b' : β} (hl : l.ReadsBack a a')
    (hr : r.ReadsBack b b') : (l.pair r).ReadsBack (a, b) (a', b') := by
  intro rest
  simp only [Layout.pair, List.append_assoc, drop_write_append, hl _, hr _]

theorem iso {l : Layout α} {make : α → β} {back : β → α} {b b' : β} {a : α}
    (h : l.ReadsBack (back b) a) (hb' : make a = b') : (l.iso make back).ReadsBack b b' :=
  fun rest => (congrArg make (h rest)).trans hb'

/-- The value at the start of what was written. -/
theorem parse {l : Layout α} {a b : α} (h : l.ReadsBack a b) (rest : Octets) :
    l.parse (l.write a ++ rest) = .ok b := by
  have hlong : ensureLength (l.write a ++ rest) l.width = .ok () := by
    rw [ensureLength_eq_ok, List.length_append, l.length_write]
    exact Nat.le_add_right ..
  rw [Layout.parse, hlong, h rest]
  rfl

end ReadsBack

theorem length_flatMap_write (l : Layout α) (xs : List α) :
    (xs.flatMap l.write).length = xs.length * l.width := by
  induction xs with
  | nil => rw [List.flatMap_nil, List.length_nil, List.length_nil, Nat.zero_mul]
  | cons x xs ih =>
    rw [List.flatMap_cons, List.length_append, l.length_write, ih, List.length_cons,
      Nat.succ_mul, Nat.add_comm]

/-- Behind the values before it, one of so many values stands in front of the rest. -/
theorem drop_flatMap_write (l : Layout α) {xs : List α} {i : Nat} (hi : i < xs.length)
    (rest : Octets) :
    (xs.flatMap l.write ++ rest).drop (i * l.width) =
      l.write xs[i] ++ ((xs.drop (i + 1)).flatMap l.write ++ rest) := by
  have hsplit : xs.flatMap l.write =
      (xs.take i).flatMap l.write ++ (xs.drop i).flatMap l.write := by
    rw [← List.flatMap_append, List.take_append_drop]
  have hlength : ((xs.take i).flatMap l.write).length = i * l.width := by
    rw [length_flatMap_write, List.length_take, Nat.min_eq_left (Nat.le_of_lt hi)]
  rw [hsplit, List.append_assoc, List.drop_left' hlength, List.drop_eq_getElem_cons hi,
    List.flatMap_cons, List.append_assoc]

theorem ReadsBack.vector {l : Layout α} {n : Nat} {v w : Vector α n}
    (h : ∀ i : Fin n, l.ReadsBack v[i] w[i]) : (l.vector n).ReadsBack v w := by
  intro rest
  ext i hi
  simp only [Layout.vector, Vector.getElem_ofFn]
  have hlength : i < v.toList.length := by rwa [Vector.length_toList]
  rw [drop_flatMap_write l hlength, Vector.getElem_toList]
  exact h ⟨i, hi⟩ _

theorem Faithful.vector {l : Layout α} (h : l.Faithful) (n : Nat) : (l.vector n).Faithful :=
  fun v => ReadsBack.vector fun i => h v[i]

/-! ## Trailing arrays -/

theorem length_writeArray (l : Layout α) (xs : List α) :
    (l.writeArray xs).length = xs.length * l.width :=
  length_flatMap_write l xs

/-- An array has no more entries than octets. -/
theorem length_le_writeArray {l : Layout α} (hl : 0 < l.width) (xs : List α) :
    xs.length ≤ (l.writeArray xs).length := by
  rw [length_writeArray]
  exact Nat.le_mul_of_pos_right _ hl

theorem readArray_writeArray {l : Layout α} (h : l.Faithful) (xs : List α) (rest : Octets) :
    l.readArray xs.length (l.writeArray xs ++ rest) = xs := by
  unfold writeArray
  induction xs with
  | nil => rfl
  | cons x xs ih =>
    rw [List.flatMap_cons, List.append_assoc, List.length_cons, readArray, h x,
      drop_write_append, ih]

/-- An array whose number of entries was not cut off is read back, with what follows it. -/
theorem parseArray_writeArray {l : Layout α} (h : l.Faithful) {xs : List α}
    (hlength : xs.length < 65536) (rest : Octets) :
    l.parseArray (Descriptor.countWord xs) (l.writeArray xs ++ rest) = .ok (xs, rest) := by
  have hcount : (Descriptor.countWord xs).toNat = xs.length := by
    rw [Descriptor.countWord, UInt16.toNat_ofNat', Nat.mod_eq_of_lt hlength]
  have hlong : ensureLength (l.writeArray xs ++ rest) (xs.length * l.width) = .ok () := by
    rw [ensureLength_eq_ok, List.length_append, length_writeArray]
    exact Nat.le_add_right ..
  rw [parseArray, hcount, hlong, readArray_writeArray h, List.drop_left' (l.length_writeArray xs)]
  rfl

end Layout

/-- The offset that was written is the one that is looked for, if it was not cut off. -/
theorem Descriptor.checkOffset_offsetWord (field : String) {n : Nat} (h : n < 65536) :
    checkOffset field (offsetWord n) n = .ok () := by
  rw [checkOffset, offsetWord, UInt16.toNat_ofNat', Nat.mod_eq_of_lt h, if_pos rfl]

end AvbEntity

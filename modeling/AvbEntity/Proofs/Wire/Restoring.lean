import AvbEntity.Proofs.Wire.Layout
import AvbEntity.Proofs.Wire.Window
import Mathlib.Data.List.Induction

/-!
# Writing back what was read

The converse of reading back what was written. A number or an address says which octets it was read
from, so that writing it again gives these octets. A text does not: reading it repairs faults and
ends at the first zero. Its field is written back if it holds the octets of a text without NUL and
zeros behind them.

## Main definitions

* `Layout.IsText`: octets that a text field of the same text has
* `Layout.Restores`: a layout that writes back the octets that it reads

## Main results

* `Octets.ofNat_toNat`: the digits of the number that digits have
* `Layout.restores_text`: a field that is a text is written back
* `Layout.Restores.pair`, `Layout.Restores.iso`, `Layout.Restores.vector`: the composite layouts
* `Layout.Restores.writeArray_readArray`: a trailing array
-/

namespace AvbEntity

namespace Octets

/-- Octets are the digits of the number that they have. -/
theorem ofNat_toNat (bs : Octets) : ofNat bs.length (toNat bs) = bs := by
  induction bs using List.reverseRecOn with
  | nil => rfl
  | append_singleton bs b ih =>
    have hb := b.toNat_lt
    have hdigit : UInt8.ofNat (toNat bs * 256 + b.toNat) = b := by
      apply UInt8.toNat_inj.mp
      rw [UInt8.toNat_ofNat']
      omega
    have hrest : (toNat bs * 256 + b.toNat) / 256 = toNat bs := by omega
    rw [List.length_append, List.length_singleton, ofNat, toNat_concat, hdigit, hrest, ih]

/-- So many octets have no larger number. -/
theorem toNat_lt (bs : Octets) : toNat bs < 256 ^ bs.length := by
  rw [← congrArg toNat (ofNat_toNat bs), toNat_ofNat]
  exact Nat.mod_lt _ (Nat.pow_pos (by decide))

end Octets

namespace Layout

variable {α β : Type}

theorem number_lt (w : Nat) (bs : Octets) : number w bs < 256 ^ w :=
  Nat.lt_of_lt_of_le (Octets.toNat_lt _)
    (Nat.pow_le_pow_right (by decide) (List.length_take_le w bs))

/-- The digits of the number that stands in so many octets. -/
theorem ofNat_number {w : Nat} {bs : Octets} (h : w ≤ bs.length) :
    Octets.ofNat w (number w bs) = bs.take w := by
  have hwidth : (bs.take w).length = w := List.length_take_of_le h
  calc Octets.ofNat w (number w bs)
      = Octets.ofNat (bs.take w).length (Octets.toNat (bs.take w)) := by rw [hwidth, number]
    _ = bs.take w := Octets.ofNat_toNat _

/-- The layout writes back the octets that it reads, if all of them are there. -/
def Restores (l : Layout α) (bs : Octets) : Prop :=
  l.width ≤ bs.length → l.write (l.read bs) = bs.take l.width

/-! ## Numbers and addresses -/

variable (bs : Octets)

theorem restores_word8 : word8.Restores bs := by
  intro h
  have hword : (UInt8.ofNat (number 1 bs)).toNat = number 1 bs :=
    UInt8.toNat_ofNat_of_lt' (number_lt 1 bs)
  simp only [word8, hword]
  exact ofNat_number h

theorem restores_word16 : word16.Restores bs := by
  intro h
  have hword : (UInt16.ofNat (number 2 bs)).toNat = number 2 bs :=
    UInt16.toNat_ofNat_of_lt' (number_lt 2 bs)
  simp only [word16, hword]
  exact ofNat_number h

theorem restores_word32 : word32.Restores bs := by
  intro h
  have hword : (UInt32.ofNat (number 4 bs)).toNat = number 4 bs :=
    UInt32.toNat_ofNat_of_lt' (number_lt 4 bs)
  simp only [word32, hword]
  exact ofNat_number h

theorem restores_word64 : word64.Restores bs := by
  intro h
  have hword : (UInt64.ofNat (number 8 bs)).toNat = number 8 bs :=
    UInt64.toNat_ofNat_of_lt' (number_lt 8 bs)
  simp only [word64, hword]
  exact ofNat_number h

theorem restores_eui64 : eui64.Restores bs := by
  intro h
  have hword : (Eui64.ofNat (number 8 bs)).toNat = number 8 bs :=
    UInt64.toNat_ofNat_of_lt' (number_lt 8 bs)
  simp only [eui64, hword]
  exact ofNat_number h

theorem restores_mac : mac.Restores bs := by
  intro h
  have hword : (Mac.ofNat (number 6 bs)).toNat = number 6 bs := by
    rw [Mac.toNat, Mac.ofNat, BitVec.toNat_ofNat]
    exact Nat.mod_eq_of_lt (number_lt 6 bs)
  simp only [mac, Mac.octets, hword]
  exact ofNat_number h

/-! ## Texts -/

variable {bs}

/-- The octets before the first zero are those of a text, and nothing but zeros follows them. -/
def IsText (bs : Octets) : Prop :=
  (∃ s : String, bs.takeWhile (· != 0) = Utf8.encode s) ∧ ∀ b ∈ bs.dropWhile (· != 0), b = 0

/-- A field of one text is written back. -/
theorem restores_text (h : IsText (bs.take textWidth)) : text.Restores bs := by
  intro hlong
  obtain ⟨⟨s, hs⟩, hzero⟩ := h
  have hread : text.read bs = s := by
    show Utf8.repair ((bs.take textWidth).takeWhile (· != 0)) = s
    rw [hs, Utf8.repair_encode]
  have hfield : Utf8.encode s ++ (bs.take textWidth).dropWhile (· != 0) = bs.take textWidth :=
    hs ▸ List.takeWhile_append_dropWhile
  have hwidth : (Utf8.encode s).length + ((bs.take textWidth).dropWhile (· != 0)).length =
      textWidth := by
    rw [← List.length_append, hfield]
    exact List.length_take_of_le hlong
  have hwhole : (Utf8.encode s).take textWidth = Utf8.encode s :=
    List.take_of_length_le (hwidth ▸ Nat.le_add_right ..)
  have hzeros : List.replicate (textWidth - (Utf8.encode s).length) 0 =
      (bs.take textWidth).dropWhile (· != 0) := by
    refine (List.eq_replicate_iff.mpr ⟨?_, hzero⟩).symm
    omega
  rw [hread]
  simp only [text, hwhole, hzeros]
  exact hfield

/-! ## Composite layouts -/

/-- The values of an array stand at the multiples of their width. -/
theorem readArray_eq_map (l : Layout α) (n : Nat) (bs : Octets) :
    l.readArray n bs = (List.range n).map fun i => l.read (bs.drop (i * l.width)) := by
  induction n generalizing bs with
  | zero => rfl
  | succ n ih =>
    rw [readArray, ih, List.range_succ_eq_map, List.map_cons, List.map_map, Nat.zero_mul,
      List.drop_zero]
    refine congrArg (l.read bs :: ·) (List.map_congr_left fun i _ => ?_)
    rw [List.drop_drop, Function.comp_apply, Nat.succ_mul, Nat.add_comm]

namespace Restores

theorem pair {l : Layout α} {r : Layout β} (hl : l.Restores bs)
    (hr : r.Restores (bs.drop l.width)) : (l.pair r).Restores bs := by
  intro h
  have hwidth : l.width + r.width ≤ bs.length := h
  have hleft : l.write (l.read bs) = bs.take l.width := hl (by omega)
  have hright : r.write (r.read (bs.drop l.width)) = (bs.drop l.width).take r.width :=
    hr (by rw [List.length_drop]; omega)
  show l.write (l.read bs) ++ r.write (r.read (bs.drop l.width)) = bs.take (l.width + r.width)
  rw [hleft, hright, ← List.take_add]

theorem iso {l : Layout α} {make : α → β} {back : β → α} (hl : l.Restores bs)
    (h : ∀ a, back (make a) = a) : (l.iso make back).Restores bs := by
  intro hlong
  show l.write (back (make (l.read bs))) = bs.take l.width
  rw [h, hl hlong]

/-- Values one after another are written back if each of them is. -/
theorem writeArray_readArray {l : Layout α} {n : Nat}
    (h : ∀ i < n, l.Restores (bs.drop (i * l.width))) (hlong : n * l.width ≤ bs.length) :
    l.writeArray (l.readArray n bs) = bs.take (n * l.width) := by
  induction n generalizing bs with
  | zero => simp [readArray, writeArray]
  | succ n ih =>
    have hwidth : n * l.width + l.width ≤ bs.length := by rwa [← Nat.succ_mul]
    have hfirst : l.write (l.read bs) = bs.take l.width := by
      have hzero := h 0 (Nat.succ_pos n)
      rw [Nat.zero_mul, List.drop_zero] at hzero
      exact hzero (by omega)
    have hothers : ∀ i < n, l.Restores ((bs.drop l.width).drop (i * l.width)) := by
      intro i hi
      have hnext := h (i + 1) (Nat.succ_lt_succ hi)
      rwa [Nat.succ_mul, Nat.add_comm, ← List.drop_drop] at hnext
    have hrest : l.writeArray (l.readArray n (bs.drop l.width)) =
        (bs.drop l.width).take (n * l.width) :=
      ih hothers (by rw [List.length_drop]; omega)
    rw [readArray, writeArray, List.flatMap_cons, hfirst]
    exact (congrArg _ hrest).trans (by rw [← List.take_add, Nat.succ_mul, Nat.add_comm])

theorem vector {l : Layout α} {n : Nat} (h : ∀ i < n, l.Restores (bs.drop (i * l.width))) :
    (l.vector n).Restores bs := by
  intro hlong
  have hvalues : ((l.vector n).read bs).toList = l.readArray n bs := by
    rw [readArray_eq_map]
    refine List.ext_getElem (by simp) fun i hi _ => ?_
    simp [Layout.vector]
  show l.writeArray ((l.vector n).read bs).toList = bs.take (n * l.width)
  rw [hvalues, writeArray_readArray h hlong]

end Restores

/-! ## How far the other layouts look -/

theorem confined_word64 : word64.Confined :=
  fun bs _ h => congrArg UInt64.ofNat (number_take h bs)

theorem confined_text : text.Confined := by
  intro bs n h
  show Utf8.repair (((bs.take n).take textWidth).takeWhile (· != 0)) = _
  rw [List.take_take, Nat.min_eq_left (show textWidth ≤ n from h)]
  rfl

theorem Confined.vector {l : Layout α} (hl : l.Confined) (n : Nat) : (l.vector n).Confined := by
  intro bs m h
  ext i hi
  simp only [Layout.vector, Vector.getElem_ofFn]
  refine hl.drop_take ?_ bs
  calc i * l.width + l.width = (i + 1) * l.width := (Nat.succ_mul ..).symm
    _ ≤ n * l.width := Nat.mul_le_mul_right _ hi
    _ ≤ m := h

/-- An array looks at no octet behind its entries. -/
theorem Confined.readArray_take {l : Layout α} (hl : l.Confined) {count n : Nat}
    (h : count * l.width ≤ n) (bs : Octets) :
    l.readArray count (bs.take n) = l.readArray count bs := by
  induction count generalizing bs n with
  | zero => rfl
  | succ count ih =>
    rw [Nat.succ_mul] at h
    rw [readArray, readArray, hl bs n (by omega), List.drop_take, ih (by omega)]

theorem length_readArray (l : Layout α) (count : Nat) (bs : Octets) :
    (l.readArray count bs).length = count := by
  rw [readArray_eq_map, List.length_map, List.length_range]

end Layout

end AvbEntity

import AvbEntity.Proofs.Wire.Restoring

/-!
# The bits that writing again restores

A PDU says nothing of some of its bits: the stream bit of the control header, the length of the
control data where it is fixed, and the octets that are reserved. Writing the PDU that was read
restores all the others.

## Main definitions

* `Octets.bit`: one bit of octets
* `Layout.Retains`: a layout that writes back the octets it reads, but for the free ones
* `Inverse`: writing and reading that undo each other, but for the ignored bits

## Main results

* `Octets.bit_ofNat`: the bits of a number
* `Layout.Retains.pair`, `Layout.Retains.iso`: the composite layouts
* `ControlHeader.encode_of_decode`: a control header that was read is written as it was
* `ControlHeader.bit_encode_body`: so is the body behind it, but for its free octets
-/

namespace AvbEntity

/-! ## Bits -/

namespace Octets

/-- Bit `i` of octets, the most significant bit of every octet first. -/
def bit (bs : Octets) (i : Nat) : Bool :=
  (bs[i / 8]?.getD 0).toNat.testBit (7 - i % 8)

/-- A bit is one of its octet. -/
theorem bit_congr {xs ys : Octets} {i : Nat} (h : xs[i / 8]? = ys[i / 8]?) :
    xs.bit i = ys.bit i := by
  rw [bit, bit, h]

theorem bit_append_left {xs : Octets} {i : Nat} (h : i < 8 * xs.length) (ys : Octets) :
    (xs ++ ys).bit i = xs.bit i :=
  bit_congr (List.getElem?_append_left (Nat.div_lt_of_lt_mul h))

theorem bit_append_right {xs : Octets} {i : Nat} (ys : Octets) :
    (xs ++ ys).bit (8 * xs.length + i) = ys.bit i := by
  have hoctet : (8 * xs.length + i) / 8 = xs.length + i / 8 := by omega
  have hplace : (8 * xs.length + i) % 8 = i % 8 := by omega
  rw [bit, bit, hoctet, hplace, List.getElem?_append_right (Nat.le_add_right ..),
    Nat.add_sub_cancel_left]

/-- The bits of a number stand in its octets from the most significant one on. -/
theorem bit_ofNat {w i : Nat} (h : i < 8 * w) (n : Nat) :
    (ofNat w n).bit i = n.testBit (8 * w - 1 - i) := by
  induction w generalizing n with
  | zero => omega
  | succ w ih =>
    have hlength : 8 * (ofNat w (n / 256)).length = 8 * w := by rw [length_ofNat]
    obtain hfront | hback := Nat.lt_or_ge i (8 * w)
    · rw [ofNat, bit_append_left (hlength ▸ hfront), ih hfront,
        show n / 256 = n / 2 ^ 8 from rfl, Nat.testBit_div_two_pow]
      congr 1
      omega
    · obtain ⟨j, rfl⟩ := Nat.exists_eq_add_of_le hback
      have hj : j < 8 := by omega
      rw [ofNat, ← hlength, bit_append_right, bit, Nat.div_eq_of_lt hj, Nat.mod_eq_of_lt hj]
      show (UInt8.ofNat n).toNat.testBit (7 - j) = _
      rw [UInt8.toNat_ofNat', Nat.testBit_mod_two_pow, decide_eq_true (by omega), Bool.true_and]
      congr 1
      omega

end Octets

/-! ## Layouts with reserved octets -/

namespace Layout

@[simp] theorem width_word8 : word8.width = 1 := rfl
@[simp] theorem width_word16 : word16.width = 2 := rfl
@[simp] theorem width_word32 : word32.width = 4 := rfl
@[simp] theorem width_eui64 : eui64.width = 8 := rfl
@[simp] theorem width_mac : mac.width = 6 := rfl
@[simp] theorem width_reserved (w : Nat) : (reserved w).width = w := rfl

variable {α β : Type} {free : Nat → Prop}

/-- The layout writes back the octets that it reads, but for the free ones. -/
def Retains (l : Layout α) (free : Nat → Prop) : Prop :=
  ∀ bs : Octets, l.width ≤ bs.length → ∀ j < l.width, ¬ free j →
    (l.write (l.read bs))[j]? = bs[j]?

theorem retains_of_restores {l : Layout α} (h : ∀ bs, l.Restores bs) : l.Retains free := by
  intro bs hlong j hj _
  rw [h bs hlong, List.getElem?_take_of_lt hj]

theorem retains_word8 : word8.Retains free := retains_of_restores restores_word8
theorem retains_word16 : word16.Retains free := retains_of_restores restores_word16
theorem retains_word32 : word32.Retains free := retains_of_restores restores_word32
theorem retains_eui64 : eui64.Retains free := retains_of_restores restores_eui64
theorem retains_mac : mac.Retains free := retains_of_restores restores_mac

theorem retains_reserved {w : Nat} (h : ∀ j < w, free j) : (reserved w).Retains free :=
  fun _ _ j hj hfree => absurd (h j hj) hfree

theorem Retains.pair {l : Layout α} {r : Layout β} (hl : l.Retains free)
    (hr : r.Retains fun j => free (l.width + j)) : (l.pair r).Retains free := by
  intro bs hlong j hj hfree
  have hwidth : l.width + r.width ≤ bs.length := hlong
  show (l.write (l.read bs) ++ r.write (r.read (bs.drop l.width)))[j]? = bs[j]?
  obtain hleft | hright := Nat.lt_or_ge j l.width
  · rw [List.getElem?_append_left (by rwa [l.length_write])]
    exact hl bs (by omega) j hleft hfree
  · obtain ⟨k, rfl⟩ := Nat.exists_eq_add_of_le hright
    rw [List.getElem?_append_right (by rw [l.length_write]; exact hright), l.length_write,
      Nat.add_sub_cancel_left, ← List.getElem?_drop]
    exact hr (bs.drop l.width) (by rw [List.length_drop]; omega) k (Nat.add_lt_add_iff_left.mp hj)
      hfree

theorem Retains.iso {l : Layout α} {make : α → β} {back : β → α} (hl : l.Retains free)
    (h : ∀ a, back (make a) = a) : (l.iso make back).Retains free := by
  intro bs hlong j hj hfree
  show (l.write (back (make (l.read bs))))[j]? = bs[j]?
  rw [h]
  exact hl bs hlong j hj hfree

end Layout

/-! ## The control header -/

namespace ControlHeader

/-- A header that was read is written as it was. -/
theorem encode_of_decode {bs : Octets} {h : ControlHeader} (hdecode : decode bs = .ok h) :
    h.encode = bs.take length := by
  obtain ⟨hlong, hcontrol, -, rfl⟩ := decode_eq_ok.mp hdecode
  obtain ⟨a, b, c, d, rest, rfl⟩ : ∃ a b c d rest, bs = a :: b :: c :: d :: rest :=
    match bs, hlong with
    | a :: b :: c :: d :: rest, _ => ⟨a, b, c, d, rest, rfl⟩
  have hrest : 8 ≤ rest.length := by
    have hlong' : 12 ≤ rest.length + 1 + 1 + 1 + 1 := hlong
    omega
  have ha : Layout.number 1 (a :: b :: c :: d :: rest) = a.toNat := by
    simp [Layout.number, Octets.toNat]
  have hb : Layout.number 1 ((a :: b :: c :: d :: rest).drop 1) = b.toNat := by
    simp [Layout.number, Octets.toNat]
  have hcd : Octets.ofNat 2 (Layout.number 2 ((a :: b :: c :: d :: rest).drop 2)) = [c, d] :=
    Layout.ofNat_number (by simp)
  have hword := Layout.number_lt 2 ((a :: b :: c :: d :: rest).drop 2)
  have hid : Layout.eui64.write (Layout.eui64.read rest) = rest.take 8 :=
    Layout.restores_eui64 rest hrest
  rw [ha] at hcontrol
  rw [encode, ofOctets, ha, hb]
  have hfirst : UInt8.ofNat (128 + (UInt8.ofNat (a.toNat % 128)).toNat % 128) = a := by
    apply UInt8.toNat_inj.mp
    have := a.toNat_lt
    simp only [UInt8.toNat_ofNat']
    omega
  have hsecond : UInt8.ofNat ((decide (128 ≤ b.toNat)).toNat * 128 +
      (UInt8.ofNat (b.toNat / 16 % 8)).toNat % 8 * 16 +
      (UInt8.ofNat (b.toNat % 16)).toNat % 16) = b := by
    apply UInt8.toNat_inj.mp
    have := b.toNat_lt
    by_cases hbit : 128 ≤ b.toNat <;> simp only [hbit, decide_true, decide_false, Bool.toNat_true,
      Bool.toNat_false, UInt8.toNat_ofNat'] <;> omega
  generalize Layout.number 2 ((a :: b :: c :: d :: rest).drop 2) = word at hcd hword
  have hthird : (UInt8.ofNat (word / 2048)).toNat % 32 * 2048 +
      (UInt16.ofNat (word % 2048)).toNat % 2048 = word := by
    simp only [UInt8.toNat_ofNat', UInt16.toNat_ofNat']
    omega
  rw [hfirst, hsecond, hthird, hcd]
  exact congrArg (fun octets => a :: b :: c :: d :: octets) hid

/-- A header of a sub-protocol that was read has nothing but its fields, of which a PDU does not
keep the stream bit. -/
theorem of_eq {subtype : Subtype} {bs : Octets} {h : ControlHeader}
    (hdecode : decodeExpecting subtype bs = .ok h) (controlDataLength : UInt16) :
    ControlHeader.of subtype h.messageType h.status controlDataLength h.id =
      { h with streamValid := false, controlDataLength } := by
  obtain ⟨hdecode, hsubtype⟩ := decodeExpecting_eq_ok.mp hdecode
  obtain ⟨-, -, hversion, -⟩ := decode_eq_ok.mp hdecode
  have hzero : h.version = 0 := hversion
  rw [ControlHeader.of, ← hsubtype, ← hzero]

/-- The stream bit is bit 8 of the header. -/
theorem bit_encode_streamValid (h : ControlHeader) (streamValid : Bool) {i : Nat} (hi : i ≠ 8)
    (rest : Octets) :
    ({ h with streamValid }.encode ++ rest).bit i = (h.encode ++ rest).bit i := by
  obtain heq | hne := Decidable.em (i / 8 = 1)
  · -- the other bits of the octet are below the stream bit
    have hlow : ∀ valid : Bool,
        (UInt8.ofNat (valid.toNat * 128 + h.version.toNat % 8 * 16 +
          h.messageType.toNat % 16)).toNat.testBit (7 - i % 8) =
        (h.version.toNat % 8 * 16 + h.messageType.toNat % 16).testBit (7 - i % 8) := by
      intro valid
      have hvalid := valid.toNat_le
      have hoctet : (UInt8.ofNat (valid.toNat * 128 + h.version.toNat % 8 * 16 +
          h.messageType.toNat % 16)).toNat =
            2 ^ 7 * valid.toNat + (h.version.toNat % 8 * 16 + h.messageType.toNat % 16) := by
        rw [UInt8.toNat_ofNat']
        omega
      rw [hoctet, Nat.testBit_two_pow_mul_add _ (by omega), if_pos (by omega)]
    simp only [Octets.bit, heq, encode, List.cons_append, List.getElem?_cons_succ,
      List.getElem?_cons_zero, Option.getD_some, hlow]
  · refine Octets.bit_congr ?_
    obtain hzero | ⟨k, hk⟩ : i / 8 = 0 ∨ ∃ k, i / 8 = k + 2 := by
      rcases Nat.lt_or_ge (i / 8) 2 with hlt | hle
      · exact .inl (by omega)
      · exact .inr (Nat.exists_eq_add_of_le' hle)
    · rw [hzero]
      rfl
    · rw [hk]
      rfl

/-- The length of the control data stands in bits 21 to 31. -/
theorem bit_encode_controlDataLength (h : ControlHeader) (controlDataLength : UInt16) {i : Nat}
    (hi : i < 21 ∨ 32 ≤ i) (rest : Octets) :
    ({ h with controlDataLength }.encode ++ rest).bit i = (h.encode ++ rest).bit i := by
  let first := UInt8.ofNat (128 + h.subtype.toNat % 128)
  let second := UInt8.ofNat
    (h.streamValid.toNat * 128 + h.version.toNat % 8 * 16 + h.messageType.toNat % 16)
  let word := fun n : UInt16 => Octets.ofNat 2 (h.status.toNat % 32 * 2048 + n.toNat % 2048)
  let behind := Layout.eui64.write h.id ++ rest
  have hencode : ∀ n : UInt16, { h with controlDataLength := n }.encode ++ rest =
      [first, second] ++ (word n ++ behind) :=
    fun n => congrArg (fun octets => first :: second :: octets) (List.append_assoc ..)
  have hword : ∀ (n : UInt16) (j : Nat), j < 5 ∨ 16 ≤ j → (word n ++ behind).bit j =
      if j < 5 then (h.status.toNat % 32).testBit (4 - j) else behind.bit (j - 16) := by
    intro n j hj
    have hlength : 8 * (word n).length = 16 := by rw [Octets.length_ofNat]
    rcases hj with hj | hj
    · have hshape : h.status.toNat % 32 * 2048 + n.toNat % 2048 =
          2 ^ 11 * (h.status.toNat % 32) + n.toNat % 2048 := by omega
      rw [if_pos hj, Octets.bit_append_left (by omega), Octets.bit_ofNat (by omega), hshape,
        Nat.testBit_two_pow_mul_add _ (by omega), if_neg (by omega)]
      congr 1
      omega
    · obtain ⟨k, rfl⟩ := Nat.exists_eq_add_of_le hj
      rw [if_neg (by omega), ← hlength, Octets.bit_append_right, Nat.add_sub_cancel_left]
  rw [hencode, show h.encode ++ rest = _ from hencode h.controlDataLength]
  obtain hfront | hback := Nat.lt_or_ge i 16
  · rw [Octets.bit_append_left hfront, Octets.bit_append_left hfront]
  · obtain ⟨j, rfl⟩ := Nat.exists_eq_add_of_le hback
    have hj : j < 5 ∨ 16 ≤ j := by omega
    have hbit := (hword controlDataLength j hj).trans (hword h.controlDataLength j hj).symm
    exact (Octets.bit_append_right _).trans (hbit.trans (Octets.bit_append_right _).symm)

/-- What is written of a header that was read, with the stream bit clear and with another length,
has the bits that were read everywhere but in these two fields. -/
theorem bit_encode_of_decode {bs : Octets} {h : ControlHeader} (hdecode : decode bs = .ok h)
    (controlDataLength : UInt16) {i : Nat} (hlow : i < 8 * length) (hstream : i ≠ 8)
    (hlength : i < 21 ∨ 32 ≤ i ∨ controlDataLength = h.controlDataLength) (rest : Octets) :
    ({ h with streamValid := false, controlDataLength }.encode ++ rest).bit i = bs.bit i := by
  have hrestored : (h.encode ++ rest).bit i = bs.bit i := by
    refine Octets.bit_congr ?_
    have hoctet : i / 8 < h.encode.length := by
      rw [length_encode]
      exact Nat.div_lt_of_lt_mul hlow
    rw [List.getElem?_append_left hoctet, encode_of_decode hdecode,
      List.getElem?_take_of_lt (Nat.div_lt_of_lt_mul hlow)]
  refine Eq.trans ?_ ((bit_encode_streamValid h false hstream rest).trans hrestored)
  rcases hlength with hfront | hback | rfl
  · exact bit_encode_controlDataLength { h with streamValid := false } _ (.inl hfront) rest
  · exact bit_encode_controlDataLength { h with streamValid := false } _ (.inr hback) rest
  · rfl

/-- So has what is written of the fields of a header of a sub-protocol, in front of a body that
keeps all but its free octets. -/
theorem bit_encode_body {α : Type} {l : Layout α} {free : Nat → Prop} (hl : l.Retains free)
    {subtype : Subtype} {bs : Octets} {h : ControlHeader}
    (hdecode : decodeExpecting subtype bs = .ok h) (controlDataLength : UInt16)
    (hlong : length + l.width ≤ bs.length) {i : Nat} (hi : i < 8 * (length + l.width))
    (hstream : i ≠ 8) (hlength : i < 21 ∨ 32 ≤ i ∨ controlDataLength = h.controlDataLength)
    (hfree : ∀ j, i / 8 = length + j → ¬ free j) :
    ((ControlHeader.of subtype h.messageType h.status controlDataLength h.id).encode ++
      l.write (l.read (bs.drop length))).bit i = bs.bit i := by
  rw [of_eq hdecode]
  obtain hheader | hbody := Nat.lt_or_ge (i / 8) length
  · exact bit_encode_of_decode (decodeExpecting_eq_ok.mp hdecode).1 controlDataLength (by omega)
      hstream hlength _
  · obtain ⟨j, hj⟩ := Nat.exists_eq_add_of_le hbody
    refine Octets.bit_congr ?_
    have hplace : length ≤ length + j := Nat.le_add_right ..
    rw [hj, List.getElem?_append_right (by rwa [length_encode]), length_encode,
      Nat.add_sub_cancel_left, ← List.getElem?_drop]
    exact hl _ (by rw [List.length_drop]; omega) j (by omega) (hfree j hj)

end ControlHeader

/-! ## Writing and reading -/

/-- Writing and reading undo each other. What is written has a fixed length, and is read back as
the PDU is received, whatever follows it. What is read from octets is written with the same bits,
but for the ignored ones. -/
structure Inverse {α : Type} (encode : α → Octets) (decode : Octets → Except DecodeError α)
    (received : α → α) (length : Nat) (ignored : Nat → Prop) : Prop where
  length_encode : ∀ a, (encode a).length = length
  decode_encode : ∀ a rest, decode (encode a ++ rest) = .ok (received a)
  encode_decode : ∀ bs a, decode bs = .ok a →
    length ≤ bs.length ∧ ∀ i < 8 * length, ¬ ignored i → (encode a).bit i = bs.bit i

end AvbEntity

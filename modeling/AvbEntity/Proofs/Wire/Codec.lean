import AvbEntity.Wire.Control
import Mathlib.Algebra.Ring.Nat

/-!
# Reading back what was written

A number written in `w` octets is read back modulo `256 ^ w`. From this every layout that the PDUs
are built of reads back the value it wrote, whatever octets follow, and the control header reads
back its fields without the bits that did not fit.

## Main definitions

* `Layout.Faithful`: the layout reads back what it wrote
* `ControlHeader.masked`: the header with the bits that the octets keep

## Main results

* `Octets.toNat_ofNat`: numbers are read back
* `Layout.Faithful.pair`, `Layout.Faithful.iso`: composite layouts are faithful if their parts are
* `ControlHeader.decode_encode`: the control header is read back
-/

namespace AvbEntity

/-- A sequence of steps succeeds if each of them does. -/
theorem bind_eq_ok {ε α β : Type} {x : Except ε α} {f : α → Except ε β} {b : β} :
    x >>= f = .ok b ↔ ∃ a, x = .ok a ∧ f a = .ok b := by
  cases x <;> simp [bind, Except.bind]

theorem mapError_eq_ok {ε ε' α : Type} {x : Except ε α} {f : ε → ε'} {a : α} :
    x.mapError f = .ok a ↔ x = .ok a := by
  cases x <;> simp [Except.mapError]

/-- A requirement is met or is an error. -/
theorem ite_eq_ok {ε α : Type} {p : Prop} [Decidable p] {a : α} {e : ε} :
    (if p then Except.ok a else .error e) = .ok a ↔ p := by
  by_cases hp : p <;> simp [hp]

/-- Steps that are taken for the members of a list succeed if each of them does. -/
theorem forM_eq_ok {ε α : Type} {xs : List α} {f : α → Except ε Unit} :
    xs.forM f = .ok () ↔ ∀ x ∈ xs, f x = .ok () := by
  induction xs with
  | nil => exact iff_of_true rfl fun x hx => absurd hx List.not_mem_nil
  | cons x xs ih =>
    rw [List.forM_eq_forM, List.forM_cons, bind_eq_ok, List.forall_mem_cons, ← ih,
      List.forM_eq_forM]
    exact ⟨fun ⟨_, h⟩ => h, fun h => ⟨(), h⟩⟩

theorem bind_ok {ε α β : Type} (a : α) (f : α → Except ε β) : Except.ok a >>= f = f a :=
  rfl

theorem toOption_eq_some {ε α : Type} {x : Except ε α} {a : α} :
    x.toOption = some a ↔ x = .ok a := by
  cases x <;> simp [Except.toOption]

theorem ensureLength_eq_ok {bs : Octets} {needed : Nat} {u : Unit} :
    ensureLength bs needed = .ok u ↔ needed ≤ bs.length := by
  unfold ensureLength
  split <;> simp <;> omega

namespace Octets

theorem toNat_concat (bs : Octets) (b : UInt8) : toNat (bs ++ [b]) = toNat bs * 256 + b.toNat := by
  simp [toNat]

/-- A number is read back from its octets, without the digits that were cut off. -/
theorem toNat_ofNat (w n : Nat) : toNat (ofNat w n) = n % 256 ^ w := by
  induction w generalizing n with
  | zero => simp [ofNat, toNat, Nat.mod_one]
  | succ w ih =>
    have hdigit : n % 256 ^ (w + 1) = n % 256 + 256 * (n / 256 % 256 ^ w) := by
      rw [Nat.pow_succ', Nat.mod_mul]
    rw [ofNat, toNat_concat, ih, UInt8.toNat_ofNat', hdigit]
    omega

theorem take_ofNat_append (w n : Nat) (rest : Octets) : (ofNat w n ++ rest).take w = ofNat w n :=
  List.take_left' (length_ofNat w n)

end Octets

namespace Layout

variable {α β : Type}

theorem number_ofNat_append (w n : Nat) (rest : Octets) :
    number w (Octets.ofNat w n ++ rest) = n % 256 ^ w := by
  rw [number, Octets.take_ofNat_append, Octets.toNat_ofNat]

/-- The layout reads back what it wrote, whatever follows. -/
def Faithful (l : Layout α) : Prop :=
  ∀ a rest, l.read (l.write a ++ rest) = a

theorem faithful_word8 : word8.Faithful := by
  intro a rest
  apply UInt8.toNat_inj.mp
  simp only [word8, number_ofNat_append, UInt8.toNat_ofNat']
  have := a.toNat_lt
  omega

theorem faithful_word16 : word16.Faithful := by
  intro a rest
  apply UInt16.toNat_inj.mp
  simp only [word16, number_ofNat_append, UInt16.toNat_ofNat']
  have := a.toNat_lt
  omega

theorem faithful_word32 : word32.Faithful := by
  intro a rest
  apply UInt32.toNat_inj.mp
  simp only [word32, number_ofNat_append, UInt32.toNat_ofNat']
  have := a.toNat_lt
  omega

theorem faithful_eui64 : eui64.Faithful := by
  intro a rest
  have h : (Eui64.ofNat (a.toNat % 256 ^ 8)).bits = a.bits := by
    apply UInt64.toNat_inj.mp
    simp only [Eui64.ofNat, Eui64.toNat, UInt64.toNat_ofNat']
    have := a.bits.toNat_lt
    omega
  simp only [eui64, number_ofNat_append]
  cases a
  exact congrArg Eui64.mk h

theorem faithful_mac : mac.Faithful := by
  intro a rest
  have h : (Mac.ofNat (a.toNat % 256 ^ 6)).bits = a.bits := by
    apply BitVec.eq_of_toNat_eq
    simp only [Mac.ofNat, Mac.toNat, BitVec.toNat_ofNat]
    have := a.bits.isLt
    omega
  simp only [mac, Mac.octets, number_ofNat_append]
  cases a
  exact congrArg Mac.mk h

theorem faithful_reserved (w : Nat) : (reserved w).Faithful := fun _ _ => rfl

theorem Faithful.pair {l : Layout α} {r : Layout β} (hl : l.Faithful) (hr : r.Faithful) :
    (l.pair r).Faithful := by
  intro a rest
  have hdrop : (l.write a.1 ++ (r.write a.2 ++ rest)).drop l.width = r.write a.2 ++ rest :=
    List.drop_left' (l.length_write a.1)
  simp only [Layout.pair, List.append_assoc, hdrop, hl a.1, hr a.2]

theorem Faithful.iso {l : Layout α} {make : α → β} {back : β → α} (hl : l.Faithful) {b : β}
    (hb : make (back b) = b) (rest : Octets) :
    (l.iso make back).read ((l.iso make back).write b ++ rest) = b := by
  simp only [Layout.iso, hl (back b), hb]

end Layout

/-! ## The control header -/

namespace ControlHeader

/-- The header with the bits of its fields that its octets keep. -/
def masked (h : ControlHeader) : ControlHeader where
  subtype := .ofNat (h.subtype.toNat % 128)
  streamValid := h.streamValid
  version := .ofNat (h.version.toNat % 8)
  messageType := .ofNat (h.messageType.toNat % 16)
  status := .ofNat (h.status.toNat % 32)
  controlDataLength := .ofNat (h.controlDataLength.toNat % 2048)
  id := h.id

theorem length_encode (h : ControlHeader) : h.encode.length = length := by
  simp [encode, length, Layout.eui64]

theorem number_encode (h : ControlHeader) (rest : Octets) :
    Layout.number 1 (h.encode ++ rest) = 128 + h.subtype.toNat % 128 := by
  simp only [encode, Layout.number, List.cons_append, List.take_succ_cons, List.take_zero,
    Octets.toNat, List.foldl_cons, List.foldl_nil, UInt8.toNat_ofNat']
  omega

/-- The fields are read back, without the bits that did not fit. -/
theorem ofOctets_encode (h : ControlHeader) (rest : Octets) :
    ofOctets (h.encode ++ rest) = h.masked := by
  have hsecond : Layout.number 1 ((h.encode ++ rest).drop 1) =
      h.streamValid.toNat * 128 + h.version.toNat % 8 * 16 + h.messageType.toNat % 16 := by
    have := h.streamValid.toNat_le
    simp only [encode, Layout.number, List.cons_append, List.drop_succ_cons, List.drop_zero,
      List.take_succ_cons, List.take_zero, Octets.toNat, List.foldl_cons, List.foldl_nil,
      UInt8.toNat_ofNat']
    omega
  have hword : Layout.number 2 ((h.encode ++ rest).drop 2) =
      h.status.toNat % 32 * 2048 + h.controlDataLength.toNat % 2048 := by
    simp only [encode, List.cons_append, List.drop_succ_cons, List.drop_zero, List.append_assoc,
      Layout.number_ofNat_append]
    omega
  have hid : Layout.eui64.read ((h.encode ++ rest).drop 4) = h.id := by
    simp only [encode, List.cons_append, List.drop_succ_cons, List.append_assoc]
    rw [List.drop_left' (Octets.length_ofNat ..), Layout.faithful_eui64]
  simp only [ofOctets, masked, number_encode, hsecond, hword, hid, mk.injEq, and_true]
  refine ⟨?_, ?_, ?_, ?_, ?_, ?_⟩
  · congr 1; omega
  · cases h.streamValid <;> simp <;> omega
  · congr 1; omega
  · congr 1; omega
  · congr 1; omega
  · congr 1; omega

/-- What a header is read from: twelve octets, the first of which marks control data. -/
theorem decode_eq_ok {bs : Octets} {h : ControlHeader} :
    decode bs = .ok h ↔ length ≤ bs.length ∧ 128 ≤ Layout.number 1 bs ∧
      h.version = supportedVersion ∧ h = ofOctets bs := by
  rw [decode, bind_eq_ok]
  simp only [ensureLength_eq_ok, exists_const]
  refine and_congr_right fun _ => ?_
  by_cases hfirst : Layout.number 1 bs < 128
  · refine iff_of_false ?_ fun h => Nat.not_le_of_gt hfirst h.1
    simp [hfirst, throw, throwThe, MonadExceptOf.throw, bind, Except.bind]
  · have hcontrol : 128 ≤ Layout.number 1 bs := Nat.le_of_not_lt hfirst
    by_cases hversion : (ofOctets bs).version = supportedVersion
    · simp only [hfirst, hversion, bne_self_eq_false, Bool.false_eq_true, if_false, pure,
        Except.pure, Except.ok.injEq]
      constructor
      · rintro rfl
        exact ⟨hcontrol, hversion, rfl⟩
      · rintro ⟨-, -, rfl⟩
        rfl
    · refine iff_of_false ?_ ?_
      · simp [hfirst, hversion, throw, throwThe, MonadExceptOf.throw, bind, Except.bind]
      · rintro ⟨-, hsupported, rfl⟩
        exact hversion hsupported

theorem decodeExpecting_eq_ok {subtype : Subtype} {bs : Octets} {h : ControlHeader} :
    decodeExpecting subtype bs = .ok h ↔ decode bs = .ok h ∧ h.subtype = subtype.code := by
  rw [decodeExpecting, bind_eq_ok]
  constructor
  · rintro ⟨h', hdecode, h⟩
    by_cases hs : h'.subtype = subtype.code
    · simp only [hs, bne_self_eq_false, Bool.false_eq_true, if_false, pure, Except.pure,
        Except.ok.injEq] at h
      exact ⟨h ▸ hdecode, h ▸ hs⟩
    · simp [hs, throw, throwThe, MonadExceptOf.throw, bind, Except.bind] at h
  · rintro ⟨hdecode, hs⟩
    exact ⟨h, hdecode, by simp [hs, pure, Except.pure]⟩

/-- The header of a sub-protocol is recognised by its first octet. -/
theorem peekSubtype_of_decodeExpecting {subtype : Subtype} {bs : Octets} {h : ControlHeader}
    (hdecode : decodeExpecting subtype bs = .ok h) : peekSubtype bs = .ok subtype := by
  obtain ⟨hdecode, hsubtype⟩ := decodeExpecting_eq_ok.mp hdecode
  obtain ⟨-, hfirst, -, rfl⟩ := decode_eq_ok.mp hdecode
  cases bs with
  | nil => simp [Layout.number, Octets.toNat] at hfirst
  | cons b bs =>
    have hb : Layout.number 1 (b :: bs) = b.toNat := by simp [Layout.number, Octets.toNat]
    simp only [ofOctets, hb] at hfirst hsubtype
    simp only [peekSubtype, if_neg (Nat.not_lt.mpr hfirst), hsubtype]
    cases subtype <;> rfl

/-- The header at the start of what was written is the header, if its version is understood. -/
theorem decode_encode {h : ControlHeader} (hv : h.masked.version = supportedVersion)
    (rest : Octets) : decode (h.encode ++ rest) = .ok h.masked := by
  rw [decode_eq_ok, ofOctets_encode, number_encode, List.length_append, length_encode]
  exact ⟨by omega, by omega, hv, rfl⟩

theorem subtype_masked_of (subtype : Subtype) (messageType status : UInt8)
    (controlDataLength : UInt16) (id : Eui64) :
    (ControlHeader.of subtype messageType status controlDataLength id).masked.subtype =
      subtype.code := by
  cases subtype <;> rfl

/-- What is written for a sub-protocol is recognised by its first octet. -/
theorem peekSubtype_encode (subtype : Subtype) (messageType status : UInt8)
    (controlDataLength : UInt16) (id : Eui64) (rest : Octets) :
    peekSubtype ((ControlHeader.of subtype messageType status controlDataLength id).encode ++
      rest) = .ok subtype := by
  apply peekSubtype_of_decodeExpecting
  rw [decodeExpecting_eq_ok]
  exact ⟨decode_encode rfl _, subtype_masked_of ..⟩

/-- The status of a header that was read has 5 bits. -/
theorem status_ofOctets_lt (bs : Octets) : (ofOctets bs).status.toNat < 32 := by
  have h : ∀ xs : Octets, xs.length ≤ 2 → Octets.toNat xs < 65536 := by
    intro xs hxs
    match xs, hxs with
    | [], _ => simp [Octets.toNat]
    | [a], _ => have := a.toNat_lt; simp [Octets.toNat]; omega
    | [a, b], _ => have := a.toNat_lt; have := b.toNat_lt; simp [Octets.toNat]; omega
  have := h ((bs.drop 2).take 2) (List.length_take_le ..)
  simp only [ofOctets, Layout.number, UInt8.toNat_ofNat']
  omega

end ControlHeader

end AvbEntity

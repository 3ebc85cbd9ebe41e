import AvbEntity.Text.Blank
import AvbEntity.Text.Hex
import Mathlib.Algebra.Ring.Nat
import Mathlib.Data.List.Induction
import Mathlib.Data.List.TakeWhile

/-!
# Hexadecimal numerals are read back

A number has many numerals: any number of zeros may stand in front of its digits, and each digit
may be of either case. All of them are read as the number, and so is each of them behind a plus
sign, but nothing else.

## Main definitions

* `Hex.IsNumeral`: the numerals of a number
* `Hex.IsSigned`: the numerals of a number, with a plus sign in front or without

## Main results

* `Hex.readDigits?_of_isNumeral`: a numeral is read as its number
* `Hex.padded_eq`: the digits of a number filled up with zeros are one of its numerals
* `Hex.read?_eq_some`: only numerals are read, and those behind a plus sign
* `trimChars_append`: the blanks around characters that are none are removed
-/

namespace AvbEntity.Text

/-- What stands between blanks, if it has no blanks itself. -/
theorem trimChars_append {before core after : List Char} (hbefore : ∀ c ∈ before, isBlank c)
    (hcore : ∀ c ∈ core, isBlank c = false) (hafter : ∀ c ∈ after, isBlank c) :
    trimChars (before ++ core ++ after) = core := by
  have hkept : ∀ {cs : List Char} (rest : List Char), cs ≠ [] → (∀ c ∈ cs, isBlank c = false) →
      (cs ++ rest).dropWhile isBlank = cs ++ rest := by
    intro cs rest hcs hblank
    obtain ⟨c, cs, rfl⟩ := List.exists_cons_of_ne_nil hcs
    exact List.dropWhile_cons_of_neg (by simp [hblank c List.mem_cons_self])
  rw [trimChars, List.append_assoc, List.dropWhile_append_of_pos hbefore]
  by_cases hnil : core = []
  · rw [hnil, List.nil_append, List.dropWhile_eq_nil_iff.mpr hafter]
    rfl
  · have hreverse : core.reverse ≠ [] := mt List.reverse_eq_nil_iff.mp hnil
    have hback := hkept [] hreverse fun c hc => hcore c (List.mem_reverse.mp hc)
    rw [List.append_nil] at hback
    rw [hkept after hnil hcore, List.reverse_append,
      List.dropWhile_append_of_pos fun c hc => hafter c (List.mem_reverse.mp hc), hback,
      List.reverse_reverse]

namespace Hex

/-- The numerals of a number: its digits, each of either case, behind any number of zeros. -/
def IsNumeral (n : Nat) (cs : List Char) : Prop :=
  ∃ zeros, cs.map Char.toLower = List.replicate zeros '0' ++ shortest n

/-! ## Single digits -/

theorem toNat_toLower (c : Char) :
    c.toLower.toNat = if 65 ≤ c.toNat ∧ c.toNat ≤ 90 then c.toNat + 32 else c.toNat := by
  have hupper : c.val ≥ 'A'.val ∧ c.val ≤ 'Z'.val ↔ 65 ≤ c.toNat ∧ c.toNat ≤ 90 := Iff.rfl
  unfold Char.toLower
  split
  next h =>
    have hbounds := hupper.mp h
    rw [if_pos hbounds]
    show (c.val + 32).toNat = c.val.toNat + 32
    rw [UInt32.toNat_add]
    exact Nat.mod_eq_of_lt (Nat.lt_of_le_of_lt (Nat.add_le_add_right hbounds.2 32) (by decide))
  next h => rw [if_neg (mt hupper.mpr h)]

/-- The case of a digit does not matter. -/
theorem digitValue?_toLower (c : Char) : digitValue? c.toLower = digitValue? c := by
  unfold digitValue?
  rw [toNat_toLower]
  split <;> grind

theorem digitValue?_digit {n : Nat} (h : n < 16) : digitValue? (digit n) = some n := by
  revert h
  revert n
  decide

theorem digitChar_eq_digit {n : Nat} (h : n < 16) : n.digitChar = digit n := by
  revert h
  revert n
  decide

theorem toLower_digit {n : Nat} (h : n < 16) : (digit n).toLower = digit n := by
  revert h
  revert n
  decide

/-- A digit is one of three rows of characters. -/
theorem bounds_of_digitValue? {c : Char} (h : (digitValue? c).isSome) :
    48 ≤ c.toNat ∧ c.toNat ≤ 57 ∨ 65 ≤ c.toNat ∧ c.toNat ≤ 70 ∨
      97 ≤ c.toNat ∧ c.toNat ≤ 102 := by
  unfold digitValue? at h
  grind

/-- A digit is no blank. -/
theorem isBlank_of_digitValue? {c : Char} (h : (digitValue? c).isSome) : isBlank c = false := by
  have hbounds := bounds_of_digitValue? h
  simp only [isBlank, Bool.or_eq_false_iff, Bool.and_eq_false_iff, decide_eq_false_iff_not,
    beq_eq_false_iff_ne]
  omega

/-! ## Rows of digits -/

theorem readDigits?_concat (cs : List Char) (c : Char) :
    readDigits? (cs ++ [c]) =
      (readDigits? cs).bind fun n => (digitValue? c).map (n * 16 + ·) := by
  rw [readDigits?, List.foldlM_append]
  simp [readDigits?, bind]

theorem readDigits?_map_toLower (cs : List Char) :
    readDigits? (cs.map Char.toLower) = readDigits? cs := by
  rw [readDigits?, List.foldlM_map]
  simp only [digitValue?_toLower]
  rfl

theorem readDigits?_zeros_append (zeros : Nat) (cs : List Char) :
    readDigits? (List.replicate zeros '0' ++ cs) = readDigits? cs := by
  induction zeros with
  | zero => rfl
  | succ zeros ih =>
    rw [List.replicate_succ, List.cons_append]
    exact ih

theorem shortest_of_lt {n : Nat} (h : n < 16) : shortest n = [digit n] := by
  rw [shortest, Nat.toDigits_of_lt_base h, digitChar_eq_digit h]

theorem shortest_of_le {n : Nat} (h : 16 ≤ n) :
    shortest n = shortest (n / 16) ++ [digit (n % 16)] := by
  rw [shortest, Nat.toDigits_of_base_le (by decide) h,
    digitChar_eq_digit (Nat.mod_lt n (by decide)), shortest]

/-- The digits of a number are read as the number. -/
theorem readDigits?_shortest (n : Nat) : readDigits? (shortest n) = some n := by
  induction n using Nat.strongRecOn with
  | ind n ih =>
    obtain hlt | hle := Nat.lt_or_ge n 16
    · rw [shortest_of_lt hlt, ← List.nil_append [_], readDigits?_concat, digitValue?_digit hlt]
      simp [readDigits?]
    · rw [shortest_of_le hle, readDigits?_concat, ih _ (by omega),
        digitValue?_digit (Nat.mod_lt n (by decide))]
      simp
      omega

/-- A numeral is read as its number. -/
theorem readDigits?_of_isNumeral {n : Nat} {cs : List Char} (h : IsNumeral n cs) :
    readDigits? cs = some n := by
  obtain ⟨zeros, hcs⟩ := h
  rw [← readDigits?_map_toLower, hcs, readDigits?_zeros_append, readDigits?_shortest]

/-- Only digits are read. -/
theorem isSome_digitValue? {cs : List Char} {n : Nat} (h : readDigits? cs = some n) :
    ∀ c ∈ cs, (digitValue? c).isSome := by
  induction cs using List.reverseRecOn generalizing n with
  | nil => exact fun c hc => absurd hc List.not_mem_nil
  | append_singleton cs c ih =>
    rw [readDigits?_concat] at h
    obtain ⟨m, hm, hlast⟩ := Option.bind_eq_some_iff.mp h
    intro d hd
    rcases List.mem_append.mp hd with hd | hd
    · exact ih hm d hd
    · rw [List.mem_singleton.mp hd]
      obtain ⟨v, hv, -⟩ := Option.map_eq_some_iff.mp hlast
      exact Option.isSome_of_eq_some hv

theorem IsNumeral.isSome_digitValue? {n : Nat} {cs : List Char} (h : IsNumeral n cs) :
    ∀ c ∈ cs, (digitValue? c).isSome :=
  Hex.isSome_digitValue? (readDigits?_of_isNumeral h)

theorem shortest_ne_nil (n : Nat) : shortest n ≠ [] := by
  obtain hlt | hle := Nat.lt_or_ge n 16
  · rw [shortest_of_lt hlt]
    exact List.cons_ne_nil _ _
  · rw [shortest_of_le hle]
    exact List.append_ne_nil_of_right_ne_nil _ (List.cons_ne_nil _ _)

theorem IsNumeral.ne_nil {n : Nat} {cs : List Char} (h : IsNumeral n cs) : cs ≠ [] := by
  obtain ⟨zeros, hcs⟩ := h
  rintro rfl
  exact List.append_ne_nil_of_right_ne_nil _ (shortest_ne_nil n) hcs.symm

/-- A numeral is read as its number, and none of its characters is taken for a sign. -/
theorem read?_of_isNumeral {n : Nat} {cs : List Char} (h : IsNumeral n cs) :
    read? cs = some n := by
  have hread := readDigits?_of_isNumeral h
  have hsign : ∀ rest, cs ≠ '+' :: rest := by
    rintro rest rfl
    exact absurd (isSome_digitValue? hread '+' List.mem_cons_self) (by decide)
  have hempty : cs.isEmpty = false := by
    rw [List.isEmpty_eq_false_iff]
    exact h.ne_nil
  unfold read?
  split
  next rest => exact absurd rfl (hsign rest)
  next =>
    show (if cs.isEmpty then none else readDigits? cs) = some n
    rw [hempty, if_neg Bool.false_ne_true, hread]

/-! ## Digits of a fixed number -/

/-- The digits of a number filled up with zeros are one of its numerals. -/
theorem padded_eq {w n : Nat} (h : n < 16 ^ (w + 1)) :
    ∃ zeros, padded (w + 1) n = List.replicate zeros '0' ++ shortest n := by
  induction w generalizing n with
  | zero =>
    have hlt : n < 16 := by simpa using h
    refine ⟨0, ?_⟩
    rw [padded, padded, Nat.mod_eq_of_lt hlt, shortest_of_lt hlt]
    rfl
  | succ w ih =>
    have hdiv : n / 16 < 16 ^ (w + 1) := Nat.div_lt_of_lt_mul (by rwa [← Nat.pow_succ'])
    obtain ⟨zeros, hzeros⟩ := ih hdiv
    rw [padded, hzeros]
    obtain hlt | hle := Nat.lt_or_ge n 16
    · -- the digits in front of a number of one digit are those of zero
      refine ⟨zeros + 1, ?_⟩
      rw [Nat.div_eq_of_lt hlt, Nat.mod_eq_of_lt hlt, shortest_of_lt hlt, List.replicate_succ']
      rfl
    · exact ⟨zeros, by rw [shortest_of_le hle, List.append_assoc]⟩

theorem map_toLower_padded (w n : Nat) : (padded w n).map Char.toLower = padded w n := by
  induction w generalizing n with
  | zero => rfl
  | succ w ih =>
    rw [padded, List.map_append, ih, List.map_singleton, toLower_digit (Nat.mod_lt n (by decide))]

@[simp] theorem length_padded (w n : Nat) : (padded w n).length = w := by
  induction w generalizing n with
  | zero => rfl
  | succ w ih => rw [padded, List.length_append, ih, List.length_singleton]

/-! ## Only numerals are read -/

theorem digitValue?_lt {c : Char} {v : Nat} (h : digitValue? c = some v) : v < 16 := by
  unfold digitValue? at h
  grind

/-- In lower case a digit is the one of its value. -/
theorem toLower_eq_digit {c : Char} {v : Nat} (h : digitValue? c = some v) :
    c.toLower = digit v := by
  have hall : ∀ k < 103, ∀ v ∈ digitValue? (Char.ofNat k),
      (Char.ofNat k).toLower = digit v := by decide
  have hbounds := bounds_of_digitValue? (Option.isSome_of_eq_some h)
  have hc := hall c.toNat (by omega) v
  rw [Char.ofNat_toNat] at hc
  exact hc h

/-- One more digit behind a numeral. -/
theorem IsNumeral.concat {n v : Nat} {cs : List Char} {c : Char} (h : IsNumeral n cs)
    (hc : digitValue? c = some v) : IsNumeral (n * 16 + v) (cs ++ [c]) := by
  have hv := digitValue?_lt hc
  obtain ⟨zeros, hcs⟩ := h
  rw [IsNumeral, List.map_append, hcs, List.map_singleton, toLower_eq_digit hc]
  obtain rfl | hpos := Nat.eq_zero_or_pos n
  · -- the digit of zero is no digit of the new number, but one of the zeros in front of it
    refine ⟨zeros + 1, ?_⟩
    rw [Nat.zero_mul, Nat.zero_add, shortest_of_lt hv, List.replicate_succ']
    rfl
  · refine ⟨zeros, ?_⟩
    have hdiv : (n * 16 + v) / 16 = n := by omega
    have hmod : (n * 16 + v) % 16 = v := by omega
    rw [shortest_of_le (by omega : 16 ≤ n * 16 + v), hdiv, hmod, List.append_assoc]

/-- Digits that are read as a number are a numeral of it. -/
theorem isNumeral_of_readDigits? {cs : List Char} {n : Nat} (hcs : cs ≠ [])
    (h : readDigits? cs = some n) : IsNumeral n cs := by
  induction cs using List.reverseRecOn generalizing n with
  | nil => exact absurd rfl hcs
  | append_singleton cs c ih =>
    rw [readDigits?_concat] at h
    obtain ⟨m, hm, hlast⟩ := Option.bind_eq_some_iff.mp h
    obtain ⟨v, hv, rfl⟩ := Option.map_eq_some_iff.mp hlast
    cases cs with
    | nil =>
      obtain rfl : 0 = m := Option.some.inj hm
      refine ⟨0, ?_⟩
      rw [List.nil_append, List.map_singleton, toLower_eq_digit hv, Nat.zero_mul, Nat.zero_add,
        shortest_of_lt (digitValue?_lt hv)]
      rfl
    | cons d cs => exact (ih (List.cons_ne_nil d cs) hm).concat hv

/-- So many digits have no larger number. -/
theorem lt_of_readDigits? {cs : List Char} {n : Nat} (h : readDigits? cs = some n) :
    n < 16 ^ cs.length := by
  induction cs using List.reverseRecOn generalizing n with
  | nil =>
    obtain rfl : 0 = n := Option.some.inj h
    exact Nat.one_pos
  | append_singleton cs c ih =>
    rw [readDigits?_concat] at h
    obtain ⟨m, hm, hlast⟩ := Option.bind_eq_some_iff.mp h
    obtain ⟨v, hv, rfl⟩ := Option.map_eq_some_iff.mp hlast
    have hmlt := ih hm
    have hvlt := digitValue?_lt hv
    rw [List.length_append, List.length_singleton, Nat.pow_succ]
    omega

theorem IsNumeral.lt {n : Nat} {cs : List Char} (h : IsNumeral n cs) : n < 16 ^ cs.length :=
  lt_of_readDigits? (readDigits?_of_isNumeral h)

/-- A numeral has its digits filled up with zeros. -/
theorem IsNumeral.map_toLower {n : Nat} {cs : List Char} (h : IsNumeral n cs) :
    cs.map Char.toLower = padded cs.length n := by
  obtain ⟨w, hw⟩ := Nat.exists_eq_succ_of_ne_zero (mt List.length_eq_zero_iff.mp h.ne_nil)
  have hlt := h.lt
  obtain ⟨zeros, hcs⟩ := h
  rw [hw] at hlt ⊢
  obtain ⟨zeros', hpadded⟩ := padded_eq hlt
  -- both have the same length, so that there are as many zeros in front
  have hlength := congrArg List.length hcs
  have hlength' := congrArg List.length hpadded
  simp only [List.length_map, List.length_append, List.length_replicate, length_padded]
    at hlength hlength'
  obtain rfl : zeros = zeros' := by omega
  exact hcs.trans hpadded.symm

/-- The numerals of a number, with one plus sign in front or without. -/
inductive IsSigned (n : Nat) : List Char → Prop
  | unsigned {digits : List Char} (hdigits : IsNumeral n digits) : IsSigned n digits
  | signed {digits : List Char} (hdigits : IsNumeral n digits) : IsSigned n ('+' :: digits)

theorem IsSigned.lt {n : Nat} {cs : List Char} (h : IsSigned n cs) : n < 16 ^ cs.length := by
  cases h with
  | unsigned hdigits => exact hdigits.lt
  | signed hdigits =>
    exact Nat.lt_of_lt_of_le hdigits.lt (Nat.pow_le_pow_right (by decide) (Nat.le_succ _))

/-- Numerals are read, also those behind a plus sign, and nothing else is. -/
theorem read?_eq_some {n : Nat} {cs : List Char} : read? cs = some n ↔ IsSigned n cs := by
  have hnumeral : ∀ {digits : List Char},
      (if digits.isEmpty then none else readDigits? digits) = some n → IsNumeral n digits := by
    intro digits h
    obtain ⟨hne, hread⟩ := Option.ite_none_left_eq_some.mp h
    exact isNumeral_of_readDigits? (mt List.isEmpty_iff.mpr hne) hread
  constructor
  · intro h
    unfold read? at h
    split at h
    next digits => exact .signed (hnumeral h)
    next => exact .unsigned (hnumeral h)
  · rintro (hdigits | hdigits)
    · exact read?_of_isNumeral hdigits
    · exact Option.ite_none_left_eq_some.mpr
        ⟨mt List.isEmpty_iff.mp hdigits.ne_nil, readDigits?_of_isNumeral hdigits⟩

end Hex

end AvbEntity.Text

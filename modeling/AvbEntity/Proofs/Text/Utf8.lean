import AvbEntity.Text.Utf8
import Mathlib.Data.List.TakeWhile

/-!
# Texts are read back from UTF-8

The octets of a text have no fault, and reading them gives the text again. Only the NUL character
has a zero octet, so that a text in a field that is filled up with zeros is read up to its first
NUL.

## Main definitions

* `Utf8.beforeNul`: a text up to its first NUL

## Main results

* `Utf8.repair_encode`: a text is read back
* `Utf8.length_encode`: the number of its octets
* `Utf8.takeWhile_encode`: its octets up to the first zero
-/

namespace AvbEntity.Utf8

/-! ## One character -/

theorem pieces_whole {a : UInt8} (ha : Lead.of a.toNat = .whole) (rest : Octets) :
    pieces (a :: rest) = some (Char.ofNat a.toNat) :: pieces rest := by
  rw [pieces.eq_def]
  simp only [ha]

theorem pieces_two {a b : UInt8} (ha : Lead.of a.toNat = .two) (hb : isTail b) (rest : Octets) :
    pieces (a :: b :: rest) =
      some (Char.ofNat (a.toNat % 32 * 64 + tailBits b)) :: pieces rest := by
  rw [pieces.eq_def]
  simp only [ha, hb, if_true]

theorem pieces_three {a b c : UInt8} {low high : Nat} (ha : Lead.of a.toNat = .three low high)
    (hb : within low high b) (hc : isTail c) (rest : Octets) :
    pieces (a :: b :: c :: rest) =
      some (Char.ofNat ((a.toNat % 16 * 64 + tailBits b) * 64 + tailBits c)) :: pieces rest := by
  rw [pieces.eq_def]
  simp only [ha, hb, hc, if_true]

theorem pieces_four {a b c d : UInt8} {low high : Nat} (ha : Lead.of a.toNat = .four low high)
    (hb : within low high b) (hc : isTail c) (hd : isTail d) (rest : Octets) :
    pieces (a :: b :: c :: d :: rest) =
      some (Char.ofNat (((a.toNat % 8 * 64 + tailBits b) * 64 + tailBits c) * 64 + tailBits d)) ::
        pieces rest := by
  rw [pieces.eq_def]
  simp only [ha, hb, hc, hd, if_true]

/-- The last six bits of a number, as a continuation octet. -/
theorem isTail_ofNat (n : Nat) : isTail (.ofNat (n % 64 + 128)) := by
  simp only [isTail, within, UInt8.toNat_ofNat', Bool.and_eq_true, decide_eq_true_eq]
  omega

theorem tailBits_ofNat (n : Nat) : tailBits (.ofNat (n % 64 + 128)) = n % 64 := by
  rw [tailBits, UInt8.toNat_ofNat']
  omega

/-- The first octet of three is followed by one within its bounds: nothing shorter would do, and the
number is no surrogate. -/
theorem exists_three {v : Nat} (hlow : 2048 ≤ v) (hhigh : v ≤ 65535) (hvalid : v.isValidChar) :
    ∃ low high, Lead.of (v / 4096 % 16 + 224) = .three low high ∧
      low ≤ v / 64 % 64 + 128 ∧ v / 64 % 64 + 128 ≤ high := by
  unfold Lead.of
  rw [if_neg (by omega), if_neg (by omega), if_neg (by omega)]
  split
  · exact ⟨_, _, rfl, by omega, by omega⟩
  · split
    · exact ⟨_, _, rfl, by omega, by omega⟩
    · rw [if_pos (by omega)]
      exact ⟨_, _, rfl, by omega, by omega⟩

/-- The first octet of four likewise: the number is not above U+10FFFF. -/
theorem exists_four {v : Nat} (hlow : 65536 ≤ v) (hvalid : v.isValidChar) :
    ∃ low high, Lead.of (v / 262144 % 8 + 240) = .four low high ∧
      low ≤ v / 4096 % 64 + 128 ∧ v / 4096 % 64 + 128 ≤ high := by
  unfold Lead.of
  rw [if_neg (by omega), if_neg (by omega), if_neg (by omega), if_neg (by omega),
    if_neg (by omega), if_neg (by omega)]
  split
  · exact ⟨_, _, rfl, by omega, by omega⟩
  · split
    · exact ⟨_, _, rfl, by omega, by omega⟩
    · rw [if_pos (by omega)]
      exact ⟨_, _, rfl, by omega, by omega⟩

theorem within_ofNat {low high n : Nat} (hlow : low ≤ n) (hhigh : n ≤ high) (hn : n < 256) :
    within low high (.ofNat n) := by
  simp only [within, UInt8.toNat_ofNat', Bool.and_eq_true, decide_eq_true_eq]
  omega

/-- A character is read back from its octets. -/
theorem pieces_utf8EncodeChar_append (c : Char) (rest : Octets) :
    pieces (String.utf8EncodeChar c ++ rest) = some c :: pieces rest := by
  have hvalid : c.val.toNat.isValidChar := c.valid
  have hchar : ∀ n, n = c.val.toNat → Char.ofNat n = c := by
    rintro n rfl
    exact c.ofNat_toNat
  generalize hv : c.val.toNat = v at hvalid hchar
  -- one to four octets, by the size of the number
  rw [String.utf8EncodeChar]
  simp only [hv]
  split
  · have hlead : Lead.of (UInt8.ofNat v).toNat = .whole := by
      rw [Lead.of, if_pos]
      rw [UInt8.toNat_ofNat']
      omega
    rw [List.singleton_append, pieces_whole hlead, hchar]
    rw [UInt8.toNat_ofNat']
    omega
  · split
    · have hlead : Lead.of (UInt8.ofNat (v / 64 % 32 + 192)).toNat = .two := by
        rw [UInt8.toNat_ofNat', Lead.of, if_neg (by omega), if_neg (by omega), if_pos (by omega)]
      rw [List.cons_append, List.singleton_append, pieces_two hlead (isTail_ofNat v), hchar]
      rw [UInt8.toNat_ofNat', tailBits_ofNat]
      omega
    · split
      · obtain ⟨low, high, hlead, hlow, hhigh⟩ := exists_three (by omega) (by omega) hvalid
        have hfirst : (UInt8.ofNat (v / 4096 % 16 + 224)).toNat = v / 4096 % 16 + 224 := by
          rw [UInt8.toNat_ofNat']
          omega
        rw [List.cons_append, List.cons_append, List.singleton_append,
          pieces_three (hfirst.symm ▸ hlead) (within_ofNat hlow hhigh (by omega))
            (isTail_ofNat v), hchar]
        rw [hfirst, tailBits_ofNat, tailBits_ofNat]
        omega
      · obtain ⟨low, high, hlead, hlow, hhigh⟩ := exists_four (by omega) hvalid
        have hfirst : (UInt8.ofNat (v / 262144 % 8 + 240)).toNat = v / 262144 % 8 + 240 := by
          rw [UInt8.toNat_ofNat']
          omega
        rw [List.cons_append, List.cons_append, List.cons_append, List.singleton_append,
          pieces_four (hfirst.symm ▸ hlead) (within_ofNat hlow hhigh (by omega))
            (isTail_ofNat (v / 64)) (isTail_ofNat v), hchar]
        rw [hfirst, tailBits_ofNat, tailBits_ofNat, tailBits_ofNat]
        omega

/-- The only character with a zero octet is NUL. -/
theorem ne_zero_of_mem_utf8EncodeChar {c : Char} (hc : c ≠ '\x00') {b : UInt8}
    (hb : b ∈ String.utf8EncodeChar c) : b ≠ 0 := by
  have hpos : c.val.toNat ≠ 0 := fun h => hc (Char.toNat_inj.mp h)
  have hne : ∀ n, n % 256 ≠ 0 → UInt8.ofNat n ≠ 0 := by
    intro n hn h
    have hnat := congrArg UInt8.toNat h
    rw [UInt8.toNat_ofNat'] at hnat
    exact hn hnat
  rw [String.utf8EncodeChar] at hb
  generalize c.val.toNat = v at hb hpos
  split at hb
  · obtain rfl := List.mem_singleton.mp hb
    exact hne _ (by omega)
  · split at hb
    · simp only [List.mem_cons, List.not_mem_nil, or_false] at hb
      rcases hb with rfl | rfl <;> exact hne _ (by omega)
    · split at hb
      · simp only [List.mem_cons, List.not_mem_nil, or_false] at hb
        rcases hb with rfl | rfl | rfl <;> exact hne _ (by omega)
      · simp only [List.mem_cons, List.not_mem_nil, or_false] at hb
        rcases hb with rfl | rfl | rfl | rfl <;> exact hne _ (by omega)

/-! ## Texts -/

/-- The octets of a text have no fault. -/
theorem pieces_encode (s : String) : pieces (encode s) = s.toList.map some := by
  unfold encode
  induction s.toList with
  | nil => rw [List.flatMap_nil, pieces.eq_def, List.map_nil]
  | cons c cs ih => rw [List.flatMap_cons, pieces_utf8EncodeChar_append, ih, List.map_cons]

/-- A text is read back from its octets. -/
theorem repair_encode (s : String) : repair (encode s) = s := by
  rw [repair, pieces_encode, List.map_map]
  have hid : ((fun c? : Option Char => c?.getD '\uFFFD') ∘ some) = id := rfl
  rw [hid, List.map_id, String.ofList_toList]

theorem length_encode (s : String) : (encode s).length = s.utf8ByteSize := by
  rw [← String.size_toByteArray, ← String.utf8Encode_toList, List.utf8Encode,
    List.size_toByteArray]
  rfl

/-- A text up to its first NUL. -/
def beforeNul (s : String) : String :=
  .ofList (s.toList.takeWhile (· != '\x00'))

theorem beforeNul_eq_self {s : String} (h : '\x00' ∉ s.toList) : beforeNul s = s := by
  have hall : s.toList.takeWhile (· != '\x00') = s.toList := by
    refine List.takeWhile_eq_self_iff.mpr fun c hc => ?_
    exact bne_iff_ne.mpr fun hnul => h (hnul ▸ hc)
  rw [beforeNul, hall, String.ofList_toList]

/-- What is filled up with zeros has the octets before the first NUL in front of the first zero. -/
theorem takeWhile_encode (s : String) (n : Nat) :
    (encode s ++ .replicate n 0).takeWhile (· != 0) = encode (beforeNul s) := by
  rw [beforeNul, encode, encode, String.toList_ofList]
  induction s.toList with
  | nil =>
    rw [List.flatMap_nil, List.nil_append, List.takeWhile_nil, List.flatMap_nil]
    cases n with
    | zero => rfl
    | succ n => rfl
  | cons c cs ih =>
    rw [List.flatMap_cons, List.append_assoc]
    by_cases hc : c = '\x00'
    · subst hc
      rfl
    · have hoctets : ∀ b ∈ String.utf8EncodeChar c, (b != 0) = true := by
        intro b hb
        exact bne_iff_ne.mpr (ne_zero_of_mem_utf8EncodeChar hc hb)
      have htake : (c :: cs).takeWhile (· != '\x00') = c :: cs.takeWhile (· != '\x00') :=
        List.takeWhile_cons_of_pos (bne_iff_ne.mpr hc)
      rw [List.takeWhile_append_of_pos hoctets, ih, htake, List.flatMap_cons]

end AvbEntity.Utf8

import AvbEntity.Identifier.Spelling
import AvbEntity.Proofs.Text.Hex
import AvbEntity.Proofs.Wire.Restoring
import Mathlib.Data.List.Forall2

/-!
# What is read as an identifier

A text is read as a number if it is a numeral behind `0x` or `0X`, or if its parts between colons
and hyphens are octets of two characters. The numeral, and each octet, may start with a plus sign.
Nothing else is read.

## Main definitions

* `Spelling.IsSignedOctets`, `Spelling.Reads`: what is read as a number of so many octets

## Main results

* `Spelling.octet?_eq_some`, `Spelling.forall₂_parts`: the parts that are octets
* `Spelling.number?_eq_some`: what is read, and nothing else
-/

namespace AvbEntity

/-- A list is read if every member is. -/
theorem mapM_eq_some {α β : Type} {f : α → Option β} {xs : List α} {ys : List β} :
    xs.mapM f = some ys ↔ List.Forall₂ (fun x y => f x = some y) xs ys := by
  induction xs generalizing ys with
  | nil =>
    rw [List.mapM_nil, List.forall₂_nil_left_iff]
    exact ⟨fun h => (Option.some.inj h).symm, fun h => h ▸ rfl⟩
  | cons x xs ih =>
    rw [List.mapM_cons, List.forall₂_cons_left_iff]
    constructor
    · intro h
      obtain ⟨y, hy, h⟩ := Option.bind_eq_some_iff.mp h
      obtain ⟨zs, hzs, h⟩ := Option.bind_eq_some_iff.mp h
      exact ⟨y, zs, hy, ih.mp hzs, (Option.some.inj h).symm⟩
    · rintro ⟨y, zs, hy, hzs, rfl⟩
      rw [hy, ih.mpr hzs]
      rfl

namespace Spelling

open Text

/-- A numeral of two characters for each octet, a plus sign among them or not, with a colon or a
hyphen between any two octets. -/
inductive IsSignedOctets : Octets → List Char → Prop
  | last {b : UInt8} {cs : List Char} (hlength : cs.length = 2)
    (hsigned : Hex.IsSigned b.toNat cs) : IsSignedOctets [b] cs
  | more {b : UInt8} {bs : Octets} {cs rest : List Char} {mark : Char} (hlength : cs.length = 2)
    (hsigned : Hex.IsSigned b.toNat cs) (hmark : mark = ':' ∨ mark = '-')
    (hrest : IsSignedOctets bs rest) : IsSignedOctets (b :: bs) (cs ++ mark :: rest)

/-- What is read as a number of so many octets. -/
inductive Reads (count n : Nat) : List Char → Prop
  | numeral {mark : Char} {cs : List Char} (hmark : mark = 'x' ∨ mark = 'X')
    (hsigned : Hex.IsSigned n cs) : Reads count n ('0' :: mark :: cs)
  | octets {cs : List Char} (hoctets : IsSignedOctets (Octets.ofNat count n) cs) :
    Reads count n cs

/-! ## Parts -/

/-- A mark stands between two parts. -/
theorem parts_mark {mark : Char} (h : mark = ':' ∨ mark = '-') (rest : List Char) :
    parts (mark :: rest) = [] :: parts rest := by
  rcases h with rfl | rfl <;> rfl

/-- Characters that are no marks belong to the part that follows them. -/
theorem parts_append {plain rest part : List Char} {more : List (List Char)}
    (h : ∀ c ∈ plain, c ≠ ':' ∧ c ≠ '-') (hrest : parts rest = part :: more) :
    parts (plain ++ rest) = (plain ++ part) :: more := by
  induction plain with
  | nil => exact hrest
  | cons c plain ih =>
    obtain ⟨hcolon, hhyphen⟩ := h c List.mem_cons_self
    have hmark : (c == ':' || c == '-') = false := by simp [hcolon, hhyphen]
    rw [List.cons_append, parts, hmark, if_neg Bool.false_ne_true,
      ih fun d hd => h d (List.mem_cons_of_mem c hd)]
    rfl

/-- Such characters alone are one part. -/
theorem parts_plain {plain : List Char} (h : ∀ c ∈ plain, c ≠ ':' ∧ c ≠ '-') :
    parts plain = [plain] := by
  simpa using parts_append h (rfl : parts [] = [[]])

/-- Such characters in front of a mark are the first part. -/
theorem parts_plain_append {plain : List Char} {mark : Char}
    (h : ∀ c ∈ plain, c ≠ ':' ∧ c ≠ '-') (hmark : mark = ':' ∨ mark = '-')
    (rest : List Char) : parts (plain ++ mark :: rest) = plain :: parts rest := by
  simpa using parts_append h (parts_mark hmark rest)

/-- A text is one part, or it has a first part in front of a mark. -/
theorem parts_eq (cs : List Char) :
    parts cs = [cs] ∨ ∃ part mark rest, cs = part ++ mark :: rest ∧
      (mark = ':' ∨ mark = '-') ∧ parts cs = part :: parts rest := by
  induction cs with
  | nil => exact .inl rfl
  | cons c cs ih =>
    by_cases hmark : c = ':' ∨ c = '-'
    · exact .inr ⟨[], c, cs, rfl, hmark, parts_mark hmark cs⟩
    · -- the character belongs to the first part of those behind it
      have hplain : ∀ d ∈ [c], d ≠ ':' ∧ d ≠ '-' := by
        intro d hd
        rw [List.mem_singleton.mp hd]
        exact not_or.mp hmark
      rcases ih with hone | ⟨part, mark, rest, rfl, hmark', hparts⟩
      · exact .inl (parts_append hplain hone)
      · exact .inr ⟨c :: part, mark, rest, rfl, hmark', parts_append hplain hparts⟩

/-! ## Octets -/

/-- A digit is no mark. -/
theorem ne_mark_of_digitValue? {c : Char} (h : (Hex.digitValue? c).isSome) :
    c ≠ ':' ∧ c ≠ '-' := by
  constructor <;>
    · rintro rfl
      exact absurd h (by decide)

/-- A sign is no mark, and neither is a digit. -/
theorem ne_mark_of_isSigned {n : Nat} {cs : List Char} (h : Hex.IsSigned n cs) :
    ∀ c ∈ cs, c ≠ ':' ∧ c ≠ '-' := by
  have hnumeral : ∀ {digits : List Char}, Hex.IsNumeral n digits →
      ∀ c ∈ digits, c ≠ ':' ∧ c ≠ '-' := by
    intro digits hdigits c hc
    exact ne_mark_of_digitValue? (hdigits.isSome_digitValue? c hc)
  cases h with
  | unsigned hdigits => exact hnumeral hdigits
  | signed hdigits =>
    intro c hc
    rcases List.mem_cons.mp hc with rfl | hc
    · decide
    · exact hnumeral hdigits c hc

/-- Two characters are read as an octet exactly if they are a numeral of it. -/
theorem octet?_eq_some {b : UInt8} {cs : List Char} :
    octet? cs = some b ↔ cs.length = 2 ∧ Hex.IsSigned b.toNat cs := by
  constructor
  · intro h
    obtain ⟨hlength, hread⟩ := Option.ite_none_right_eq_some.mp h
    obtain ⟨n, hn, rfl⟩ := Option.map_eq_some_iff.mp hread
    have hsigned := Hex.read?_eq_some.mp hn
    -- two characters have no number that would not fit
    have hlt := hsigned.lt
    rw [hlength] at hlt
    refine ⟨hlength, ?_⟩
    rwa [UInt8.toNat_ofNat_of_lt' hlt]
  · rintro ⟨hlength, hsigned⟩
    rw [octet?, if_pos hlength, Hex.read?_eq_some.mpr hsigned, Option.map_some,
      UInt8.ofNat_toNat]

/-- The parts of a text are read as octets exactly if the text has these octets. -/
theorem forall₂_parts {bs : Octets} {cs : List Char} :
    List.Forall₂ (fun part b => octet? part = some b) (parts cs) bs ↔ IsSignedOctets bs cs := by
  constructor
  · intro h
    induction bs generalizing cs with
    | nil =>
      rcases parts_eq cs with hparts | ⟨part, mark, rest, -, -, hparts⟩ <;>
        · rw [hparts] at h
          cases h
    | cons b bs ih =>
      rcases parts_eq cs with hparts | ⟨part, mark, rest, rfl, hmark, hparts⟩
      · rw [hparts, List.forall₂_cons] at h
        obtain ⟨hb, hnil⟩ := h
        obtain ⟨hlength, hsigned⟩ := octet?_eq_some.mp hb
        cases hnil
        exact .last hlength hsigned
      · rw [hparts, List.forall₂_cons] at h
        obtain ⟨hb, hrest⟩ := h
        obtain ⟨hlength, hsigned⟩ := octet?_eq_some.mp hb
        exact .more hlength hsigned hmark (ih hrest)
  · intro h
    induction h with
    | last hlength hsigned =>
      rw [parts_plain (ne_mark_of_isSigned hsigned)]
      exact .cons (octet?_eq_some.mpr ⟨hlength, hsigned⟩) .nil
    | more hlength hsigned hmark hrest ih =>
      rw [parts_plain_append (ne_mark_of_isSigned hsigned) hmark]
      exact .cons (octet?_eq_some.mpr ⟨hlength, hsigned⟩) ih

/-- The second character of an octet is a digit, so that octets are no numeral behind `0x`. -/
theorem exists_digit_of_isSignedOctets {bs : Octets} {cs : List Char}
    (h : IsSignedOctets bs cs) :
    ∃ first second rest, cs = first :: second :: rest ∧ (Hex.digitValue? second).isSome := by
  have hstart : ∀ {b : UInt8} {cs : List Char} (rest : List Char), cs.length = 2 →
      Hex.IsSigned b.toNat cs → ∃ first second more,
        cs ++ rest = first :: second :: more ∧ (Hex.digitValue? second).isSome := by
    intro b cs rest hlength hsigned
    obtain ⟨first, second, rfl⟩ := List.length_eq_two.mp hlength
    refine ⟨first, second, rest, rfl, ?_⟩
    cases hsigned with
    | unsigned hdigits | signed hdigits =>
      exact hdigits.isSome_digitValue? second (by simp)
  cases h with
  | last hlength hsigned => simpa using hstart [] hlength hsigned
  | more hlength hsigned hmark hrest => exact hstart _ hlength hsigned

/-! ## Numbers -/

theorem octets?_eq_some {count n : Nat} {cs : List Char} :
    octets? count cs = some n ↔
      n < 256 ^ count ∧ IsSignedOctets (Octets.ofNat count n) cs := by
  constructor
  · intro h
    obtain ⟨hcount, hread⟩ := Option.ite_none_right_eq_some.mp h
    obtain ⟨bs, hbs, rfl⟩ := Option.map_eq_some_iff.mp hread
    have hparts := mapM_eq_some.mp hbs
    obtain rfl : bs.length = count := hparts.length_eq.symm.trans hcount
    refine ⟨Octets.toNat_lt bs, ?_⟩
    rw [Octets.ofNat_toNat]
    exact forall₂_parts.mp hparts
  · rintro ⟨hn, hoctets⟩
    have hparts := forall₂_parts.mpr hoctets
    have hcount : (parts cs).length = count := by
      rw [hparts.length_eq, Octets.length_ofNat]
    rw [octets?, if_pos hcount, mapM_eq_some.mpr hparts, Option.map_some, Octets.toNat_ofNat,
      Nat.mod_eq_of_lt hn]

/-- A text is read as a number exactly if it has one of the two forms and the number fits. -/
theorem number?_eq_some {count n : Nat} {cs : List Char} :
    number? count cs = some n ↔ n < 256 ^ count ∧ Reads count n cs := by
  have hbound : 1 <<< (8 * count) = 256 ^ count := by
    rw [Nat.shiftLeft_eq, Nat.one_mul, Nat.pow_mul]
  have hnumeral : ∀ {digits : List Char},
      (Hex.read? digits).filter (· < 1 <<< (8 * count)) = some n ↔
        Hex.IsSigned n digits ∧ n < 256 ^ count := by
    intro digits
    rw [Option.filter_eq_some_iff, Hex.read?_eq_some, decide_eq_true_iff, hbound]
  constructor
  · intro h
    unfold number? at h
    split at h
    next digits =>
      obtain ⟨hsigned, hn⟩ := hnumeral.mp h
      exact ⟨hn, .numeral (.inl rfl) hsigned⟩
    next digits =>
      obtain ⟨hsigned, hn⟩ := hnumeral.mp h
      exact ⟨hn, .numeral (.inr rfl) hsigned⟩
    next =>
      obtain ⟨hn, hoctets⟩ := octets?_eq_some.mp h
      exact ⟨hn, .octets hoctets⟩
  · rintro ⟨hn, hreads⟩
    cases hreads with
    | numeral hmark hsigned =>
      rcases hmark with rfl | rfl <;> exact hnumeral.mpr ⟨hsigned, hn⟩
    | octets hoctets =>
      obtain ⟨first, second, rest, rfl, hsecond⟩ := exists_digit_of_isSignedOctets hoctets
      unfold number?
      split
      next heq =>
        obtain ⟨-, rfl, -⟩ : first = '0' ∧ second = 'x' ∧ rest = _ := by simpa using heq
        exact absurd hsecond (by decide)
      next heq =>
        obtain ⟨-, rfl, -⟩ : first = '0' ∧ second = 'X' ∧ rest = _ := by simpa using heq
        exact absurd hsecond (by decide)
      next => exact octets?_eq_some.mpr ⟨hn, hoctets⟩

end Spelling

end AvbEntity

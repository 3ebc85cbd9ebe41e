import AvbEntity.Proofs.Document.Form
import AvbEntity.Proofs.Identifier.Reading
import Mathlib.Algebra.Ring.Int.Defs
import Mathlib.Data.List.Basic

/-!
# Every spelling of an identifier is read as the identifier

An identifier has many spellings: the numerals of its number behind `0x` or `0X`, and its octets
with a colon or a hyphen between any two of them, in digits of either case and with white space
around it. Each is read as the identifier, its text among them, and a document may have any of
them, or the number itself. No spelling is one of two identifiers.

## Main definitions

* `Spelling.IsOctets`, `Spelling.Spells`: the spellings of a number of so many octets
* `Spelling.IsSpelling`: a spelling with white space around it
* `Spelling.Unambiguous`: every spelling is read as what it spells

## Main results

* `Spelling.number?_of_spells`: a spelling is read as its number
* `Eui64.isSpelling_text`, `Mac.isSpelling_text`: the text of an identifier is one of its spellings
* `Spelling.unambiguous`: identifiers are read from their spellings
-/

namespace AvbEntity

open Text

namespace Spelling

/-! ## Spellings -/

/-- The octets in two digits each, with a colon or a hyphen between any two octets. -/
inductive IsOctets : Octets → List Char → Prop
  | last {b : UInt8} {digits : List Char}
    (hdigits : digits.map Char.toLower = Hex.padded 2 b.toNat) : IsOctets [b] digits
  | more {b : UInt8} {bs : Octets} {digits rest : List Char} {mark : Char}
    (hdigits : digits.map Char.toLower = Hex.padded 2 b.toNat) (hmark : mark = ':' ∨ mark = '-')
    (hrest : IsOctets bs rest) : IsOctets (b :: bs) (digits ++ mark :: rest)

/-- A number of so many octets is spelled as a numeral behind `0x` or `0X`, or as its octets. -/
inductive Spells (count n : Nat) : List Char → Prop
  | numeral {mark : Char} {digits : List Char} (hmark : mark = 'x' ∨ mark = 'X')
    (hdigits : Hex.IsNumeral n digits) : Spells count n ('0' :: mark :: digits)
  | octets {cs : List Char} (hoctets : IsOctets (Octets.ofNat count n) cs) : Spells count n cs

/-- A text is a spelling with nothing but white space around it. -/
def IsSpelling (count n : Nat) (s : String) : Prop :=
  ∃ before core after, s.toList = before ++ core ++ after ∧ (∀ c ∈ before, isBlank c) ∧
    Spells count n core ∧ ∀ c ∈ after, isBlank c

/-! ## Octets -/

/-- The digits of an octet are a numeral of it. -/
theorem isNumeral_octet {b : UInt8} {digits : List Char}
    (h : digits.map Char.toLower = Hex.padded 2 b.toNat) : Hex.IsNumeral b.toNat digits := by
  obtain ⟨zeros, hzeros⟩ := Hex.padded_eq (w := 1) (n := b.toNat) b.toNat_lt
  exact ⟨zeros, h.trans hzeros⟩

theorem isSome_digitValue?_octet {b : UInt8} {digits : List Char}
    (h : digits.map Char.toLower = Hex.padded 2 b.toNat) :
    ∀ c ∈ digits, (Hex.digitValue? c).isSome :=
  (isNumeral_octet h).isSome_digitValue?

theorem length_octet {b : UInt8} {digits : List Char}
    (h : digits.map Char.toLower = Hex.padded 2 b.toNat) : digits.length = 2 := by
  rw [← List.length_map Char.toLower, h, Hex.length_padded]

/-- No blank stands among spelled octets. -/
theorem isBlank_of_isOctets {bs : Octets} {cs : List Char} (h : IsOctets bs cs) :
    ∀ c ∈ cs, isBlank c = false := by
  induction h with
  | last hdigits =>
    exact fun c hc => Hex.isBlank_of_digitValue? (isSome_digitValue?_octet hdigits c hc)
  | more hdigits hmark hrest ih =>
    intro c hc
    rcases List.mem_append.mp hc with hc | hc
    · exact Hex.isBlank_of_digitValue? (isSome_digitValue?_octet hdigits c hc)
    rcases List.mem_cons.mp hc with rfl | hc
    · rcases hmark with rfl | rfl <;> rfl
    · exact ih c hc

/-! ## Reading a spelling -/

variable {count n : Nat} {core : List Char}

theorem isSignedOctets_of_isOctets {bs : Octets} (h : IsOctets bs core) :
    IsSignedOctets bs core := by
  induction h with
  | last hdigits => exact .last (length_octet hdigits) (.unsigned (isNumeral_octet hdigits))
  | more hdigits hmark hrest ih =>
    exact .more (length_octet hdigits) (.unsigned (isNumeral_octet hdigits)) hmark ih

theorem reads_of_spells (h : Spells count n core) : Reads count n core := by
  cases h with
  | numeral hmark hdigits => exact .numeral hmark (.unsigned hdigits)
  | octets hoctets => exact .octets (isSignedOctets_of_isOctets hoctets)

/-- A spelling is read as its number. -/
theorem number?_of_spells (hn : n < 256 ^ count) (h : Spells count n core) :
    number? count core = some n :=
  number?_eq_some.mpr ⟨hn, reads_of_spells h⟩

/-- No blank stands inside a spelling. -/
theorem isBlank_of_spells (h : Spells count n core) : ∀ c ∈ core, isBlank c = false := by
  cases h with
  | numeral hmark hdigits =>
    intro c hc
    rcases List.mem_cons.mp hc with rfl | hc
    · rfl
    rcases List.mem_cons.mp hc with rfl | hc
    · rcases hmark with rfl | rfl <;> rfl
    · exact Hex.isBlank_of_digitValue? (hdigits.isSome_digitValue? c hc)
  | octets hoctets => exact isBlank_of_isOctets hoctets

/-- White space is no part of a spelling. -/
theorem number?_of_isSpelling {s : String} (hn : n < 256 ^ count) (h : IsSpelling count n s) :
    number? count (trimChars s.toList) = some n := by
  obtain ⟨before, core, after, hs, hbefore, hcore, hafter⟩ := h
  rw [hs, trimChars_append hbefore (isBlank_of_spells hcore) hafter,
    number?_of_spells hn hcore]

theorem isSpelling_ofList (h : Spells count n core) : IsSpelling count n (.ofList core) := by
  refine ⟨[], core, [], ?_, ?_, h, ?_⟩
  · simp
  · exact fun c hc => absurd hc List.not_mem_nil
  · exact fun c hc => absurd hc List.not_mem_nil

end Spelling

/-! ## EUI-64 identifiers -/

namespace Eui64

open Spelling (IsSpelling)

theorem toNat_lt (x : Eui64) : x.toNat < 256 ^ 8 :=
  x.bits.toNat_lt

theorem ofNat_toNat (x : Eui64) : ofNat x.toNat = x :=
  congrArg Eui64.mk (UInt64.ofNat_toNat (x := x.bits))

theorem toNat_ofNat {n : Nat} (h : n < 256 ^ 8) : (ofNat n).toNat = n :=
  UInt64.toNat_ofNat_of_lt' h

/-- The text of an identifier is one of its spellings. -/
theorem isSpelling_text (x : Eui64) : IsSpelling 8 x.toNat x.text := by
  obtain ⟨zeros, hzeros⟩ := Hex.padded_eq (w := 15) (n := x.toNat) x.bits.toNat_lt
  have hnumeral : Hex.IsNumeral x.toNat (Hex.padded 16 x.toNat) :=
    ⟨zeros, (Hex.map_toLower_padded 16 x.toNat).trans hzeros⟩
  exact Spelling.isSpelling_ofList (.numeral (.inl rfl) hnumeral)

/-- A spelling is parsed as the identifier it spells. -/
theorem parse_of_isSpelling {x : Eui64} {s : String} (h : IsSpelling 8 x.toNat s) :
    parse s = .ok x := by
  rw [parse, Spelling.number?_of_isSpelling x.toNat_lt h]
  exact congrArg Except.ok x.ofNat_toNat

theorem parse_text (x : Eui64) : parse x.text = .ok x :=
  parse_of_isSpelling x.isSpelling_text

end Eui64

/-! ## MAC addresses -/

namespace Mac

open Spelling (IsOctets IsSpelling)

theorem toNat_lt (m : Mac) : m.toNat < 256 ^ 6 :=
  m.bits.isLt

theorem ofNat_toNat (m : Mac) : ofNat m.toNat = m :=
  congrArg Mac.mk (BitVec.ofNat_toNat 48 m.bits |>.trans (BitVec.setWidth_eq m.bits))

theorem toNat_ofNat {n : Nat} (h : n < 256 ^ 6) : (ofNat n).toNat = n := by
  rw [toNat, ofNat, BitVec.toNat_ofNat]
  exact Nat.mod_eq_of_lt h

/-- Octets written with colons between them are spelled octets. -/
theorem isOctets_intercalate {bs : Octets} (h : bs ≠ []) :
    IsOctets bs (String.intercalate ":"
      (bs.map fun b => .ofList (Hex.padded 2 b.toNat))).toList := by
  have hdigits : ∀ b : UInt8,
      (Hex.padded 2 b.toNat).map Char.toLower = Hex.padded 2 b.toNat :=
    fun b => Hex.map_toLower_padded 2 b.toNat
  induction bs with
  | nil => exact absurd rfl h
  | cons b bs ih =>
    cases bs with
    | nil =>
      rw [List.map_singleton, String.intercalate_singleton, String.toList_ofList]
      exact .last (hdigits b)
    | cons c bs =>
      rw [List.map_cons, List.map_cons, String.intercalate_cons_cons, String.toList_append,
        String.toList_append, String.toList_ofList, List.append_assoc]
      exact .more (hdigits b) (.inl rfl) (ih (List.cons_ne_nil c bs))

/-- The text of an address is one of its spellings. -/
theorem isSpelling_text (m : Mac) : IsSpelling 6 m.toNat m.text := by
  have hoctets : m.octets ≠ [] := List.ne_nil_of_length_eq_add_one (Octets.length_ofNat 6 m.toNat)
  have hcore := Spelling.isSpelling_ofList (.octets (isOctets_intercalate hoctets))
  rwa [String.ofList_toList] at hcore

/-- A spelling is parsed as the address it spells. -/
theorem parse_of_isSpelling {m : Mac} {s : String} (h : IsSpelling 6 m.toNat s) :
    parse s = .ok m := by
  rw [parse, Spelling.number?_of_isSpelling m.toNat_lt h]
  exact congrArg Except.ok m.ofNat_toNat

theorem parse_text (m : Mac) : parse m.text = .ok m :=
  parse_of_isSpelling m.isSpelling_text

end Mac

/-! ## Documents -/

namespace Document.Form

theorem eui64_read_text (s : String) :
    eui64.read (.text s) = (Eui64.parse s).mapError .spelling :=
  rfl

theorem mac_read_text (s : String) :
    mac.read (.text s) = (Mac.parse s).mapError .spelling :=
  rfl

@[simp] theorem faithful_eui64 : eui64.Faithful where
  read_write x := by
    have hwrite : eui64.write x = .text x.text := rfl
    rw [hwrite, eui64_read_text, x.parse_text, Except.mapError]
  isReadable_write _ := rfl

@[simp] theorem faithful_mac : mac.Faithful where
  read_write m := by
    have hwrite : mac.write m = .text m.text := rfl
    rw [hwrite, mac_read_text, m.parse_text, Except.mapError]
  isReadable_write _ := rfl

theorem eui64_read_integer (n : Int) :
    eui64.read (.integer n) = (below UInt64.size (.integer n)).map .ofNat :=
  rfl

theorem mac_read_integer (n : Int) :
    mac.read (.integer n) = below UInt64.size (.integer n) >>= fun n =>
      if n < 1 <<< 48 then .ok (.ofNat n) else .error (.macOutOfRange n) :=
  rfl

/-- A number of 64 bits is read as the identifier of that number. -/
theorem eui64_read_of_lt {n : Nat} (h : n < 2 ^ 64) :
    eui64.read (.integer n) = .ok (.ofNat n) := by
  have hread : below UInt64.size (.integer n) = .ok n := below_of_lt h
  rw [eui64_read_integer, hread]
  rfl

/-- A number is read as the address of that number, or refused when it has more than 48 bits. -/
theorem mac_read_of_lt {n : Nat} (h : n < 2 ^ 64) :
    mac.read (.integer n) = if n < 2 ^ 48 then .ok (.ofNat n) else .error (.macOutOfRange n) := by
  have hread : below UInt64.size (.integer n) = .ok n := below_of_lt h
  rw [mac_read_integer, hread]
  rfl

end Document.Form

namespace Spelling

open Document (Form)

/-- Every identifier of so many octets is read from each of its spellings, its text among them, and
from nothing that spells another identifier. Documents have a spelling or the number. -/
structure Unambiguous {α : Type} (count : Nat) (toNat : α → Nat) (text : α → String)
    (parse : String → Except SpellingError α) (form : Form α) : Prop where
  parse_text : ∀ x, parse (text x) = .ok x
  parse_spelling : ∀ x s, IsSpelling count (toNat x) s → parse s = .ok x
  read_text : ∀ s, form.read (.text s) = (parse s).mapError .spelling
  read_integer : ∀ x, form.read (.integer (toNat x)) = .ok x
  /-- Every number of so many octets is the number of an identifier. -/
  exists_integer : ∀ n < 256 ^ count, ∃ x, toNat x = n
  refused : ∀ n : Int, n < 0 ∨ 256 ^ count ≤ n → ∃ e, form.read (.integer n) = .error e
  eq_of_spelling : ∀ x y s, IsSpelling count (toNat x) s → IsSpelling count (toNat y) s → x = y

theorem unambiguous_eui64 :
    Unambiguous 8 Eui64.toNat Eui64.text Eui64.parse Form.eui64 where
  parse_text := Eui64.parse_text
  parse_spelling _ _ := Eui64.parse_of_isSpelling
  read_text := Form.eui64_read_text
  read_integer x := by
    rw [Form.eui64_read_of_lt x.toNat_lt, x.ofNat_toNat]
  exists_integer n hn := ⟨.ofNat n, Eui64.toNat_ofNat hn⟩
  refused n hn := by
    refine ⟨.misfit, ?_⟩
    have hsize : (UInt64.size : Int) = 256 ^ 8 := rfl
    rw [Form.eui64_read_integer, Form.below_eq_error (hsize ▸ hn)]
    rfl
  eq_of_spelling _ _ _ hx hy :=
    Except.ok.inj ((Eui64.parse_of_isSpelling hx).symm.trans (Eui64.parse_of_isSpelling hy))

theorem unambiguous_mac :
    Unambiguous 6 Mac.toNat Mac.text Mac.parse Form.mac where
  parse_text := Mac.parse_text
  parse_spelling _ _ := Mac.parse_of_isSpelling
  read_text := Form.mac_read_text
  read_integer x := by
    have hlt : x.toNat < 2 ^ 48 := x.toNat_lt
    rw [Form.mac_read_of_lt (Nat.lt_trans hlt (by decide)), if_pos hlt, x.ofNat_toNat]
  exists_integer n hn := ⟨.ofNat n, Mac.toNat_ofNat hn⟩
  refused n hn := by
    by_cases hword : n < 0 ∨ UInt64.size ≤ n
    · refine ⟨.misfit, ?_⟩
      rw [Form.mac_read_integer, Form.below_eq_error hword]
      rfl
    · -- a number of 64 bits is refused because it has more than 48
      obtain ⟨m, rfl⟩ := Int.eq_ofNat_of_zero_le (by omega : 0 ≤ n)
      have hm : m < 2 ^ 64 := by
        have : UInt64.size = 2 ^ 64 := rfl
        omega
      refine ⟨.macOutOfRange m, ?_⟩
      rw [Form.mac_read_of_lt hm, if_neg (by omega)]
  eq_of_spelling _ _ _ hx hy :=
    Except.ok.inj ((Mac.parse_of_isSpelling hx).symm.trans (Mac.parse_of_isSpelling hy))

/-- Both kinds of identifiers are read from their spellings without ambiguity, and a document that
has a number of more than 48 bits for an address is told so. -/
theorem unambiguous :
    Unambiguous 8 Eui64.toNat Eui64.text Eui64.parse Form.eui64 ∧
      Unambiguous 6 Mac.toNat Mac.text Mac.parse Form.mac ∧
      ∀ n : Nat, 2 ^ 48 ≤ n → n < 2 ^ 64 →
        Form.mac.read (.integer n) = .error (.macOutOfRange n) := by
  refine ⟨unambiguous_eui64, unambiguous_mac, fun n hlow hhigh => ?_⟩
  rw [Form.mac_read_of_lt hhigh, if_neg (Nat.not_lt.mpr hlow)]

example : Eui64.parse " 0X1b21fFFE010203\n" = .ok (.ofNat 0x001B21FFFE010203) := by decide +kernel

example : Mac.parse "91-E0:f0-00:0e-80" = .ok (.ofNat 0x91E0F0000E80) := by decide +kernel

end Spelling

end AvbEntity

import AvbEntity.Proofs.Identifier.Spelling

/-!
# What is accepted as an identifier

Spellings are accepted, and so is one thing more: the numeral behind `0x`, and each octet, may have
a plus sign in place of a zero in front. Every other text is refused, and the error quotes it
without the white space around it.

## Main definitions

* `Spelling.withoutSigns`: the characters with zeros in place of plus signs
* `Spelling.IsStrict`: only spellings are accepted, and everything else is refused
* `Spelling.Judges`: what a parser makes of a text

## Main results

* `Spelling.spells_withoutSigns`: with zeros for its signs, what is read is a spelling
* `Spelling.reads_iff_spells`: without signs, what is read are the spellings
* `Spelling.judges`: what is made of any text as an EUI-64 and as a MAC address
-/

namespace AvbEntity.Spelling

open Text

/-! ## Signs -/

/-- The characters with a zero in place of every plus sign. -/
def withoutSigns (cs : List Char) : List Char :=
  cs.map fun c => if c = '+' then '0' else c

@[simp] theorem withoutSigns_cons (c : Char) (cs : List Char) :
    withoutSigns (c :: cs) = (if c = '+' then '0' else c) :: withoutSigns cs :=
  rfl

@[simp] theorem withoutSigns_append (cs cs' : List Char) :
    withoutSigns (cs ++ cs') = withoutSigns cs ++ withoutSigns cs' :=
  List.map_append

@[simp] theorem length_withoutSigns (cs : List Char) : (withoutSigns cs).length = cs.length :=
  List.length_map _

theorem withoutSigns_of_not_mem {cs : List Char} (h : '+' ∉ cs) : withoutSigns cs = cs := by
  induction cs with
  | nil => rfl
  | cons c cs ih =>
    obtain ⟨hc, hcs⟩ := List.ne_and_not_mem_of_not_mem_cons h
    rw [withoutSigns_cons, if_neg (Ne.symm hc), ih hcs]

/-- No digit of a numeral is a plus sign. -/
theorem plus_notMem_of_isNumeral {n : Nat} {cs : List Char} (h : Hex.IsNumeral n cs) :
    '+' ∉ cs := by
  intro hplus
  exact absurd (h.isSome_digitValue? '+' hplus) (by decide)

/-- A zero in place of the sign is one more zero in front. -/
theorem isNumeral_withoutSigns {n : Nat} {cs : List Char} (h : Hex.IsSigned n cs) :
    Hex.IsNumeral n (withoutSigns cs) := by
  cases h with
  | unsigned hdigits => rwa [withoutSigns_of_not_mem (plus_notMem_of_isNumeral hdigits)]
  | signed hdigits =>
    rw [withoutSigns_cons, if_pos rfl,
      withoutSigns_of_not_mem (plus_notMem_of_isNumeral hdigits)]
    obtain ⟨zeros, hzeros⟩ := hdigits
    refine ⟨zeros + 1, ?_⟩
    rw [List.map_cons, hzeros]
    rfl

theorem withoutSigns_mark {mark : Char} (h : mark = ':' ∨ mark = '-') (rest : List Char) :
    withoutSigns (mark :: rest) = mark :: withoutSigns rest := by
  rcases h with rfl | rfl <;> rfl

theorem isOctets_withoutSigns {bs : Octets} {cs : List Char} (h : IsSignedOctets bs cs) :
    IsOctets bs (withoutSigns cs) := by
  have hoctet : ∀ {b : UInt8} {cs : List Char}, cs.length = 2 → Hex.IsSigned b.toNat cs →
      (withoutSigns cs).map Char.toLower = Hex.padded 2 b.toNat := by
    intro b cs hlength hsigned
    rw [(isNumeral_withoutSigns hsigned).map_toLower, length_withoutSigns, hlength]
  induction h with
  | last hlength hsigned => exact .last (hoctet hlength hsigned)
  | more hlength hsigned hmark hrest ih =>
    rw [withoutSigns_append, withoutSigns_mark hmark]
    exact .more (hoctet hlength hsigned) hmark ih

/-- With zeros for its signs, what is read is a spelling of the same number. -/
theorem spells_withoutSigns {count n : Nat} {cs : List Char} (h : Reads count n cs) :
    Spells count n (withoutSigns cs) := by
  cases h with
  | numeral hmark hsigned =>
    rcases hmark with rfl | rfl
    · exact .numeral (.inl rfl) (isNumeral_withoutSigns hsigned)
    · exact .numeral (.inr rfl) (isNumeral_withoutSigns hsigned)
  | octets hoctets => exact .octets (isOctets_withoutSigns hoctets)

theorem plus_notMem_of_isOctets {bs : Octets} {cs : List Char} (h : IsOctets bs cs) :
    '+' ∉ cs := by
  induction h with
  | last hdigits => exact plus_notMem_of_isNumeral (isNumeral_octet hdigits)
  | more hdigits hmark hrest ih =>
    have hdigits := plus_notMem_of_isNumeral (isNumeral_octet hdigits)
    rcases hmark with rfl | rfl <;> simp [hdigits, ih]

/-- No spelling has a plus sign. -/
theorem plus_notMem_of_spells {count n : Nat} {cs : List Char} (h : Spells count n cs) :
    '+' ∉ cs := by
  cases h with
  | numeral hmark hdigits =>
    have hdigits := plus_notMem_of_isNumeral hdigits
    rcases hmark with rfl | rfl <;> simpa using hdigits
  | octets hoctets => exact plus_notMem_of_isOctets hoctets

/-- Where there is no sign, spellings are read, and nothing else is. -/
theorem reads_iff_spells {count n : Nat} {cs : List Char} (hplus : '+' ∉ cs) :
    Reads count n cs ↔ Spells count n cs := by
  constructor
  · intro h
    rw [← withoutSigns_of_not_mem hplus]
    exact spells_withoutSigns h
  · exact reads_of_spells

/-! ## Texts -/

section

variable {α : Type} (count : Nat) (toNat : α → Nat) (fault : String → SpellingError)
  (parse : String → Except SpellingError α) (s : String)

/-- A text is accepted only if it is a spelling, and otherwise quoted in the error. -/
def IsStrict : Prop :=
  (∀ x, parse s = .ok x → Spells count (toNat x) (trimChars s.toList)) ∧
    ((∀ x, ¬ Spells count (toNat x) (trimChars s.toList)) → parse s = .error (fault (trim s)))

/-- What a parser of identifiers of so many octets makes of a text. -/
structure Judges : Prop where
  /-- White space around the text does not count, and what is left is read as the number. -/
  parse_eq_ok : ∀ x, parse s = .ok x ↔ Reads count (toNat x) (trimChars s.toList)
  /-- The error quotes the text without the white space around it. -/
  parse_eq_error : (∀ x, ¬ Reads count (toNat x) (trimChars s.toList)) →
    parse s = .error (fault (trim s))
  /-- Whatever is accepted is a spelling, but for plus signs in place of zeros. -/
  spells : ∀ x, parse s = .ok x → Spells count (toNat x) (withoutSigns (trimChars s.toList))
  /-- The parser is strict about all texts but those that are accepted with a plus sign. -/
  isStrict_iff : IsStrict count toNat fault parse s ↔
    ('+' ∈ trimChars s.toList → ∀ x, parse s ≠ .ok x)

end

/-- A parser makes this of a text if it gives the identifier of the number that is read. -/
theorem judges_of_number? {α : Type} {count : Nat} {toNat : α → Nat} {ofNat : Nat → α}
    {fault : String → SpellingError} {parse : String → Except SpellingError α} {s : String}
    (hparse : parse s = match number? count (trimChars s.toList) with
      | some n => .ok (ofNat n)
      | none => .error (fault (trim s)))
    (hlt : ∀ x, toNat x < 256 ^ count) (hofNat : ∀ x, ofNat (toNat x) = x)
    (htoNat : ∀ {n}, n < 256 ^ count → toNat (ofNat n) = n) :
    Judges count toNat fault parse s := by
  have hok : ∀ x, parse s = .ok x ↔ Reads count (toNat x) (trimChars s.toList) := by
    intro x
    rw [hparse]
    constructor
    · intro h
      split at h
      next n hn =>
        obtain ⟨hfits, hreads⟩ := number?_eq_some.mp hn
        rwa [← Except.ok.inj h, htoNat hfits]
      next => cases h
    · intro hreads
      rw [number?_eq_some.mpr ⟨hlt x, hreads⟩]
      exact congrArg Except.ok (hofNat x)
  have herror : (∀ x, ¬ Reads count (toNat x) (trimChars s.toList)) →
      parse s = .error (fault (trim s)) := by
    intro hnone
    rw [hparse]
    split
    next n hn =>
      obtain ⟨hfits, hreads⟩ := number?_eq_some.mp hn
      rw [← htoNat hfits] at hreads
      exact absurd hreads (hnone _)
    next => rfl
  constructor
  case parse_eq_ok => exact hok
  case parse_eq_error => exact herror
  case spells => exact fun x h => spells_withoutSigns ((hok x).mp h)
  case isStrict_iff =>
    constructor
    · intro hstrict hplus x h
      exact plus_notMem_of_spells (hstrict.1 x h) hplus
    · intro hsigned
      have hspells : ∀ x, Reads count (toNat x) (trimChars s.toList) →
          Spells count (toNat x) (trimChars s.toList) := by
        intro x hreads
        have hplus : '+' ∉ trimChars s.toList := fun hplus => hsigned hplus x ((hok x).mpr hreads)
        exact (reads_iff_spells hplus).mp hreads
      constructor
      · exact fun x h => hspells x ((hok x).mp h)
      · exact fun hnone => herror fun x hreads => hnone x (hspells x hreads)

/-- **What is accepted as an identifier**: for both kinds of identifiers, spellings, and what would
be one if it had zeros for its plus signs. -/
theorem judges (s : String) :
    Judges 8 Eui64.toNat .eui64 Eui64.parse s ∧ Judges 6 Mac.toNat .mac Mac.parse s :=
  ⟨judges_of_number? rfl Eui64.toNat_lt Eui64.ofNat_toNat Eui64.toNat_ofNat,
    judges_of_number? rfl Mac.toNat_lt Mac.ofNat_toNat Mac.toNat_ofNat⟩

/-- Texts with plus signs spell nothing, but are accepted. -/
theorem not_isStrict_of_signed :
    (Eui64.parse "0x+ff" = .ok (.ofNat 0xFF) ∧
      ¬ IsStrict 8 Eui64.toNat .eui64 Eui64.parse "0x+ff") ∧
    (Mac.parse "+1:+2:+3:+4:+5:+f" = .ok (.ofNat 0x01020304050F) ∧
      ¬ IsStrict 6 Mac.toNat .mac Mac.parse "+1:+2:+3:+4:+5:+f") := by
  have heui64 : Eui64.parse "0x+ff" = .ok (.ofNat 0xFF) := by decide +kernel
  have hmac : Mac.parse "+1:+2:+3:+4:+5:+f" = .ok (.ofNat 0x01020304050F) := by decide +kernel
  refine ⟨⟨heui64, fun hstrict => ?_⟩, hmac, fun hstrict => ?_⟩
  · exact plus_notMem_of_spells (hstrict.1 _ heui64) (by decide +kernel)
  · exact plus_notMem_of_spells (hstrict.1 _ hmac) (by decide +kernel)

end AvbEntity.Spelling

import AvbEntity.Proofs.Descriptor.Codec

/-!
# The limits that a descriptor exceeds

The check of a descriptor stops at the first limit that is exceeded. Here all of them are listed, in
the order in which they are looked at, and the check is found to be the demand that the list is
empty. The length of a descriptor is that of the table of layouts, so that nothing has to be written
in order to know it.

## Main definitions

* `demand`: the first of a list of faults, if there is one
* `Descriptor.size`: the length of a descriptor, by the table of layouts
* `Descriptor.violations`: the limits that a descriptor exceeds, in order

## Main results

* `Descriptor.length_encode`: a descriptor is as long as the table says
* `Descriptor.check_eq_demand`: what is checked of a descriptor
* `Descriptor.violations_eq_nil`: the descriptors without violations
-/

namespace AvbEntity

/-! ## The first of many faults -/

section

variable {ε ε' α β : Type}

/-- The first of the faults, if there is one. -/
def demand : List ε → Except ε Unit
  | [] => .ok ()
  | e :: _ => .error e

theorem demand_eq_ok {es : List ε} : demand es = .ok () ↔ es = [] := by
  cases es <;> simp [demand]

theorem demand_eq_error {es : List ε} {e : ε} : demand es = .error e ↔ es.head? = some e := by
  cases es <;> simp [demand]

theorem demand_append (es es' : List ε) :
    demand (es ++ es') = demand es >>= fun _ => demand es' := by
  cases es <;> rfl

theorem demand_map (f : ε → ε') (es : List ε) : demand (es.map f) = (demand es).mapError f := by
  cases es <;> rfl

/-- What is demanded of the members of a list, one after another. -/
theorem demand_flatMap (f : α → List ε) (xs : List α) :
    demand (xs.flatMap f) = xs.forM fun x => demand (f x) := by
  induction xs with
  | nil => rfl
  | cons x xs ih =>
    rw [List.flatMap_cons, demand_append, ih]
    rfl

/-- One demand, with the fault that is found if it is not met. -/
theorem demand_ite {p : Prop} [Decidable p] (e : ε) :
    demand (if p then [e] else []) = if p then .error e else .ok () := by
  by_cases hp : p
  · rw [if_pos hp, if_pos hp]
    rfl
  · rw [if_neg hp, if_neg hp]
    rfl

/-- A bound that is demanded. -/
theorem demand_le {a b : Nat} (e : ε) :
    (if a ≤ b then Except.ok () else .error e) = demand (if b < a then [e] else []) := by
  rw [demand_ite]
  by_cases h : a ≤ b
  · rw [if_pos h, if_neg (Nat.not_lt.mpr h)]
  · rw [if_neg h, if_pos (Nat.lt_of_not_le h)]

end

namespace Descriptor

/-! ## The table of layouts -/

/-- The number of octets of a descriptor with the body, by the table of layouts. -/
def Body.size : Body → Nat
  | .configuration c => 74 + 4 * c.descriptorCounts.length
  | .audioUnit u => 144 + 4 * u.samplingRates.length
  | .videoUnit _ => 136
  | .stream _ s => 132 + 8 * s.formats.length
  | .jack _ _ => 78
  | .avbInterface _ => 98
  | .clockSource _ => 86
  | .locale _ => 72
  | .strings _ => 452
  | .streamPort _ _ => 20
  | .audioCluster _ => 87
  | .videoCluster c =>
    121 + 4 * c.supportedFormatSpecifics.length + 4 * c.supportedSamplingRates.length +
      2 * c.supportedAspectRatios.length + 4 * c.supportedSizes.length +
      2 * c.supportedColorSpaces.length
  | .audioMap mappings => 8 + 8 * mappings.length
  | .videoMap mappings => 8 + 8 * mappings.length
  | .clockDomain d => 76 + 2 * d.clockSources.length
  | .unsupported _ => 0

/-- The number of octets of the descriptor, by the table of layouts. -/
def size : Descriptor → Nat
  | .entity _ => 312
  | .numbered _ body => body.size

/-- A fixed part and the entries behind it. -/
theorem length_write_append {α β : Type} {head : Layout α} {l : Layout β} {fixed entry : Nat}
    (hfixed : headWidth + head.width = fixed) (hentry : l.width = entry) (a : α) (xs : List β) :
    headWidth + (head.write a ++ l.writeArray xs).length = fixed + entry * xs.length := by
  rw [List.length_append, head.length_write, l.length_writeArray, ← Nat.add_assoc, hfixed, hentry,
    Nat.mul_comm]

/-- A fixed part alone. -/
theorem length_write_layout {α : Type} {l : Layout α} {fixed : Nat}
    (hfixed : headWidth + l.width = fixed) (a : α) : headWidth + (l.write a).length = fixed := by
  rw [l.length_write, hfixed]

theorem Body.length_write {b : Body} (hknown : b.isKnown) :
    headWidth + b.write.length = b.size := by
  cases b with
  | configuration c => exact length_write_append rfl rfl _ _
  | audioUnit u => exact length_write_append rfl rfl _ _
  | videoUnit u => exact length_write_layout rfl u
  | stream direction s => exact length_write_append rfl rfl _ _
  | jack direction j => exact length_write_layout rfl j
  | avbInterface i => exact length_write_layout rfl i
  | clockSource c => exact length_write_layout rfl c
  | locale l => exact length_write_layout rfl l
  | strings s => exact length_write_layout rfl s
  | streamPort direction p => exact length_write_layout rfl p
  | audioCluster c => exact length_write_layout rfl c
  | videoCluster c =>
    have harrays : VideoCluster.arraysOffset = 121 := rfl
    rw [write, c.length_write, VideoCluster.spacesOffset, VideoCluster.sizesOffset,
      VideoCluster.ratiosOffset, VideoCluster.ratesOffset, harrays]
    rfl
  | audioMap mappings => exact length_write_append rfl rfl _ _
  | videoMap mappings => exact length_write_append rfl rfl _ _
  | clockDomain d => exact length_write_append rfl rfl _ _
  | unsupported kind => exact absurd hknown Bool.false_ne_true

/-- A descriptor is as long as the table says. -/
theorem length_encode (d : Descriptor) : d.encode.length = d.size := by
  have hhead : ∀ code index, (head.write (code, index)).length = headWidth :=
    fun code index => head.length_write (code, index)
  cases d with
  | entity e =>
    rw [encode, List.length_append, hhead]
    exact length_write_layout rfl e
  | numbered index b =>
    by_cases hknown : b.isKnown
    · rw [encode_numbered hknown, List.length_append, hhead, Body.length_write hknown]
      rfl
    · cases b with
      | unsupported kind => rfl
      | _ => exact absurd rfl hknown

/-- The descriptor ends in arrays. -/
def hasArrays : Descriptor → Bool
  | .numbered _ (.configuration _) | .numbered _ (.audioUnit _) | .numbered _ (.stream _ _)
  | .numbered _ (.videoCluster _) | .numbered _ (.audioMap _) | .numbered _ (.videoMap _)
  | .numbered _ (.clockDomain _) => true
  | _ => false

/-- Without arrays every descriptor fits into a response. -/
theorem size_le {d : Descriptor} (h : d.hasArrays = false) : d.size ≤ maxLength := by
  cases d with
  | entity e => exact Nat.le_of_ble_eq_true rfl
  | numbered index b =>
    cases b with
    | configuration c => cases h
    | audioUnit u => cases h
    | stream direction s => cases h
    | videoCluster c => cases h
    | audioMap mappings => cases h
    | videoMap mappings => cases h
    | clockDomain d => cases h
    | _ => exact Nat.le_of_ble_eq_true rfl

/-! ## Violations -/

/-- The texts that are too long for their fields. -/
def textViolations (texts : List (String × String)) : List LimitError :=
  texts.flatMap fun (field, s) =>
    if Layout.textWidth < s.utf8ByteSize then [.stringTooLong field s.utf8ByteSize] else []

/-- More texts than a STRINGS descriptor has places for. -/
def capacityViolations : Descriptor → List LimitError
  | .numbered _ (.strings s) =>
    if Strings.capacity < s.strings.length then
      [.arrayTooLong "strings" s.strings.length Strings.capacity]
    else []
  | _ => []

/-- A descriptor that is too long for a response. -/
def sizeViolations (d : Descriptor) : List LimitError :=
  if maxLength < d.size then [.descriptorTooLarge d.kind d.index d.size maxLength] else []

/-- The limits that the descriptor exceeds, in the order in which they are looked at. -/
def violations (d : Descriptor) : List LimitError :=
  d.capacityViolations ++ textViolations d.texts ++ d.sizeViolations

theorem checkTexts_eq_demand (texts : List (String × String)) :
    checkTexts texts = demand (textViolations texts) := by
  rw [textViolations, demand_flatMap, checkTexts]
  refine congrArg (texts.forM ·) (funext fun t => ?_)
  exact demand_le _

theorem checkLength_eq_demand (d : Descriptor) : d.checkLength = demand d.sizeViolations := by
  rw [checkLength, length_encode, sizeViolations]
  exact demand_le _

/-- The check is the demand that no limit be exceeded. -/
theorem check_eq_demand (d : Descriptor) : d.check = demand d.violations := by
  rw [violations, demand_append, demand_append, ← checkTexts_eq_demand, ← checkLength_eq_demand]
  cases d with
  | entity e => rfl
  | numbered index b =>
    have hcapacity : b.checkCapacity = demand (numbered index b).capacityViolations := by
      cases b with
      | strings s => exact demand_le _
      | _ => rfl
    rw [check, ← hcapacity]
    cases b.checkCapacity <;> rfl

theorem textViolations_eq_nil {texts : List (String × String)} :
    textViolations texts = [] ↔ ∀ t ∈ texts, t.2.utf8ByteSize ≤ Layout.textWidth := by
  rw [← demand_eq_ok, ← checkTexts_eq_demand, checkTexts_eq_ok]

theorem violations_eq_nil {d : Descriptor} : d.violations = [] ↔ d.Fits := by
  rw [← demand_eq_ok, ← check_eq_demand, check_eq_ok]

end Descriptor

end AvbEntity

import AvbEntity.Descriptor.Limits
import AvbEntity.Proofs.Text.Utf8
import AvbEntity.Proofs.Wire.Codec

/-!
# The normal form of a descriptor

The octets of a descriptor hold its texts up to their first NUL, and a STRINGS descriptor always has
seven texts. A descriptor with its texts cut and filled up in this way is in normal form; without
its texts it is the descriptor that it was.

## Main definitions

* `Descriptor.texts`, `Descriptor.mapTexts`: the texts of a descriptor, and all of them changed
* `Descriptor.normal`: what its octets hold of a descriptor
* `Descriptor.mute`: the descriptor without its texts
* `Descriptor.IsPlain`: a descriptor in normal form
* `Descriptor.isKnown`: a descriptor that has octets
* `Descriptor.Fits`: the limits of a descriptor

## Main results

* `Descriptor.mute_normal`: only texts are lost
* `Descriptor.normal_eq_self`: nothing is lost of a plain descriptor
* `Descriptor.check_eq_ok`: what is checked
-/

namespace AvbEntity

namespace Descriptor

/-! ## Texts -/

/-- The ENTITY with all of its texts changed. -/
def Entity.mapTexts (f : String → String) (e : Entity) : Entity :=
  { e with
    entityName := f e.entityName
    firmwareVersion := f e.firmwareVersion
    groupName := f e.groupName
    serialNumber := f e.serialNumber }

/-- The texts filled up to seven. -/
def Strings.pad (s : Strings) : Strings :=
  { strings := s.strings ++ .replicate (capacity - s.strings.length) "" }

namespace Body

/-- The body with all of its texts changed. -/
def mapTexts (f : String → String) : Body → Body
  | .configuration c => .configuration { c with objectName := f c.objectName }
  | .audioUnit u => .audioUnit { u with objectName := f u.objectName }
  | .videoUnit u => .videoUnit { u with objectName := f u.objectName }
  | .stream direction s => .stream direction { s with objectName := f s.objectName }
  | .jack direction j => .jack direction { j with objectName := f j.objectName }
  | .avbInterface i => .avbInterface { i with objectName := f i.objectName }
  | .clockSource c => .clockSource { c with objectName := f c.objectName }
  | .locale l => .locale { l with localeIdentifier := f l.localeIdentifier }
  | .strings s => .strings { strings := s.strings.map f }
  | .streamPort direction p => .streamPort direction p
  | .audioCluster c => .audioCluster { c with objectName := f c.objectName }
  | .videoCluster c => .videoCluster { c with objectName := f c.objectName }
  | .audioMap mappings => .audioMap mappings
  | .videoMap mappings => .videoMap mappings
  | .clockDomain d => .clockDomain { d with objectName := f d.objectName }
  | .unsupported kind => .unsupported kind

/-- The body with seven texts, if it is that of a STRINGS descriptor. -/
def pad : Body → Body
  | .strings s => .strings s.pad
  | body => body

/-- What its octets hold of the body: every text up to its first NUL, and seven texts of a STRINGS
descriptor. -/
def normal (b : Body) : Body :=
  (b.mapTexts Utf8.beforeNul).pad

/-- The body has a layout. -/
def isKnown : Body → Bool
  | .unsupported _ => false
  | _ => true

variable {f g : String → String} {b : Body}

@[simp] theorem kind_mapTexts : (b.mapTexts f).kind = b.kind := by
  cases b with
  | stream direction s => cases direction <;> rfl
  | jack direction j => cases direction <;> rfl
  | _ => rfl

@[simp] theorem kind_pad : b.pad.kind = b.kind := by
  cases b <;> rfl

theorem mapTexts_eq_self (h : ∀ t ∈ b.texts, f t.2 = t.2) : b.mapTexts f = b := by
  cases b with
  | streamPort direction p => rfl
  | audioMap mappings => rfl
  | videoMap mappings => rfl
  | unsupported kind => rfl
  | strings s =>
    have hs : s.strings.map f = s.strings := by
      refine (List.map_congr_left fun text htext => ?_).trans (List.map_id _)
      exact h ("strings", text) (List.mem_map_of_mem htext)
    rw [mapTexts, hs]
  | configuration c => rw [mapTexts, h _ (List.mem_singleton_self _)]
  | audioUnit u => rw [mapTexts, h _ (List.mem_singleton_self _)]
  | videoUnit u => rw [mapTexts, h _ (List.mem_singleton_self _)]
  | stream direction s => rw [mapTexts, h _ (List.mem_singleton_self _)]
  | jack direction j => rw [mapTexts, h _ (List.mem_singleton_self _)]
  | avbInterface i => rw [mapTexts, h _ (List.mem_singleton_self _)]
  | clockSource c => rw [mapTexts, h _ (List.mem_singleton_self _)]
  | locale l => rw [mapTexts, h _ (List.mem_singleton_self _)]
  | audioCluster c => rw [mapTexts, h _ (List.mem_singleton_self _)]
  | videoCluster c => rw [mapTexts, h _ (List.mem_singleton_self _)]
  | clockDomain d => rw [mapTexts, h _ (List.mem_singleton_self _)]

end Body

theorem Entity.mapTexts_eq_self {f : String → String} {e : Entity}
    (h : ∀ t ∈ e.texts, f t.2 = t.2) : e.mapTexts f = e := by
  simp only [texts, List.forall_mem_cons] at h
  rw [mapTexts, h.1, h.2.1, h.2.2.1, h.2.2.2.1]

/-! ## Normal forms -/

/-- The texts of the descriptor, with the names of their fields. -/
def texts : Descriptor → List (String × String)
  | .entity e => e.texts
  | .numbered _ body => body.texts

/-- The descriptor with all of its texts changed. -/
def mapTexts (f : String → String) : Descriptor → Descriptor
  | .entity e => .entity (e.mapTexts f)
  | .numbered index body => .numbered index (body.mapTexts f)

/-- The descriptor with seven texts, if it is a STRINGS descriptor. -/
def pad : Descriptor → Descriptor
  | .entity e => .entity e
  | .numbered index body => .numbered index body.pad

/-- What its octets hold of the descriptor: every text up to its first NUL, and seven texts of a
STRINGS descriptor. -/
def normal (d : Descriptor) : Descriptor :=
  (d.mapTexts Utf8.beforeNul).pad

/-- What the descriptor holds besides its texts: every number, every range and every array. -/
def mute (d : Descriptor) : Descriptor :=
  (d.mapTexts fun _ => "").pad

/-- No text has a NUL, and there are seven of them in a STRINGS descriptor. -/
structure IsPlain (d : Descriptor) : Prop where
  noNul : ∀ t ∈ d.texts, '\x00' ∉ t.2.toList
  complete : ∀ index s, d = .numbered index (.strings s) → s.strings.length = Strings.capacity

/-- The descriptor has a layout. -/
def isKnown : Descriptor → Bool
  | .entity _ => true
  | .numbered _ body => body.isKnown

variable {d : Descriptor}

@[simp] theorem kind_normal : d.normal.kind = d.kind := by
  cases d with
  | entity e => rfl
  | numbered index body => exact Body.kind_pad.trans Body.kind_mapTexts

@[simp] theorem index_normal : d.normal.index = d.index := by
  cases d <;> rfl

/-- Without what they say, texts that were filled up are those that were there, filled up. -/
theorem Strings.pad_mute_pad (s : Strings) :
    ({ strings := s.pad.strings.map fun _ => "" } : Strings).pad =
      ({ strings := s.strings.map fun _ => "" } : Strings).pad := by
  simp only [pad, mk.injEq, List.map_append, List.map_const', List.map_replicate,
    List.length_replicate, List.replicate_append_replicate]
  congr 1
  omega

/-- Only texts are lost. -/
theorem mute_normal (d : Descriptor) : d.normal.mute = d.mute := by
  cases d with
  | entity e => rfl
  | numbered index body =>
    refine congrArg (Descriptor.numbered index) ?_
    cases body with
    | strings s =>
      have hmute := ({ strings := s.strings.map Utf8.beforeNul } : Strings).pad_mute_pad
      rw [List.map_map] at hmute
      exact congrArg Body.strings hmute
    | _ => rfl

/-- Nothing is lost of a plain descriptor. -/
theorem normal_eq_self (h : d.IsPlain) : d.normal = d := by
  have htexts : ∀ t ∈ d.texts, Utf8.beforeNul t.2 = t.2 :=
    fun t ht => Utf8.beforeNul_eq_self (h.noNul t ht)
  cases d with
  | entity e => exact congrArg Descriptor.entity (Entity.mapTexts_eq_self htexts)
  | numbered index body =>
    refine congrArg (Descriptor.numbered index) ?_
    rw [Body.mapTexts_eq_self htexts]
    cases body with
    | strings s =>
      have hpad : s.pad = s := by
        rw [Strings.pad, h.complete index s rfl, Nat.sub_self, List.replicate_zero,
          List.append_nil]
      exact congrArg Body.strings hpad
    | _ => rfl

/-! ## Limits -/

/-- The descriptor keeps within its limits. -/
structure Fits (d : Descriptor) : Prop where
  texts : ∀ t ∈ d.texts, t.2.utf8ByteSize ≤ Layout.textWidth
  capacity : ∀ index s, d = .numbered index (.strings s) → s.strings.length ≤ Strings.capacity
  length : d.encode.length ≤ maxLength

theorem checkTexts_eq_ok {texts : List (String × String)} :
    checkTexts texts = .ok () ↔ ∀ t ∈ texts, t.2.utf8ByteSize ≤ Layout.textWidth := by
  rw [checkTexts, forM_eq_ok]
  exact forall₂_congr fun t _ => ite_eq_ok

theorem checkCapacity_eq_ok {b : Body} :
    b.checkCapacity = .ok () ↔ ∀ s, b = .strings s → s.strings.length ≤ Strings.capacity := by
  cases b with
  | strings s =>
    rw [Body.checkCapacity, ite_eq_ok]
    exact ⟨fun h _ hs => Body.strings.inj hs ▸ h, fun h => h s rfl⟩
  | _ => exact iff_of_true rfl fun s hs => Body.noConfusion hs

theorem checkLength_eq_ok : d.checkLength = .ok () ↔ d.encode.length ≤ maxLength :=
  ite_eq_ok

/-- The check accepts exactly the descriptors within their limits. -/
theorem check_eq_ok : d.check = .ok () ↔ d.Fits := by
  cases d with
  | entity e =>
    rw [check, bind_eq_ok]
    constructor
    · rintro ⟨_, htexts, hlength⟩
      exact ⟨checkTexts_eq_ok.mp htexts, fun index s hs => Descriptor.noConfusion hs,
        checkLength_eq_ok.mp hlength⟩
    · intro h
      exact ⟨(), checkTexts_eq_ok.mpr h.texts, checkLength_eq_ok.mpr h.length⟩
  | numbered index body =>
    rw [check, bind_eq_ok]
    simp only [bind_eq_ok]
    constructor
    · rintro ⟨_, hcapacity, _, htexts, hlength⟩
      refine ⟨checkTexts_eq_ok.mp htexts, ?_, checkLength_eq_ok.mp hlength⟩
      rintro _ s hs
      exact checkCapacity_eq_ok.mp hcapacity s (Descriptor.numbered.inj hs).2
    · intro h
      refine ⟨(), checkCapacity_eq_ok.mpr ?_, (), checkTexts_eq_ok.mpr h.texts,
        checkLength_eq_ok.mpr h.length⟩
      rintro s rfl
      exact h.capacity index s rfl

end Descriptor

end AvbEntity

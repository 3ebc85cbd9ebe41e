import AvbEntity.Proofs.Descriptor.Normal
import AvbEntity.Proofs.Wire.Layout

/-!
# Descriptors are read back

What is read at the start of the octets of a descriptor is its normal form, whatever follows them,
if the descriptor keeps within its limits. The limits are what makes that so: a text that fits is
not cut, and in 508 octets no number of entries and no offset is too large for its 16 bits.

## Main results

* `Descriptor.Body.parse_write`: a body is read back
* `Descriptor.parse_encode_append`: a descriptor is read back
* `Descriptor.reads_of_check`: all of a descriptor but the end of its texts is read back
-/

namespace AvbEntity

@[simp] theorem Kind.ofCode?_code (k : Kind) : ofCode? k.code = some k :=
  k.all_getElem_code

namespace Descriptor

open Layout (ReadsBack readsBack_text faithful_word8 faithful_word16 faithful_word32
  faithful_word64 faithful_eui64 faithful_mac parseArray_writeArray)

/-! ## Parts without texts -/

theorem Span.faithful_layout : Span.layout.Faithful :=
  fun _ => (faithful_word16.pair faithful_word16).iso rfl

theorem Resources.faithful_layout : Resources.layout.Faithful :=
  Span.faithful_layout.vector 16

theorem TalkerRef.faithful_layout : TalkerRef.layout.Faithful :=
  fun _ => (faithful_eui64.pair faithful_word16).iso rfl

theorem DescriptorCount.faithful_layout : DescriptorCount.layout.Faithful :=
  fun _ => (faithful_word16.pair faithful_word16).iso rfl

theorem StreamPort.faithful_layout : StreamPort.layout.Faithful :=
  fun _ => (faithful_word16.pair <| faithful_word16.pair <| Span.faithful_layout.pair <|
    Span.faithful_layout.pair Span.faithful_layout).iso rfl

theorem AudioMapping.faithful_layout : AudioMapping.layout.Faithful :=
  fun _ => (faithful_word16.pair <| faithful_word16.pair <|
    faithful_word16.pair faithful_word16).iso rfl

theorem VideoMapping.faithful_layout : VideoMapping.layout.Faithful :=
  fun _ => (faithful_word16.pair <| faithful_word16.pair <|
    faithful_word16.pair faithful_word16).iso rfl

/-! ## Bodies of fixed length -/

theorem Entity.readsBack_layout {e : Entity}
    (h : ∀ t ∈ e.texts, t.2.utf8ByteSize ≤ Layout.textWidth) :
    layout.ReadsBack e (e.mapTexts Utf8.beforeNul) := by
  simp only [texts, List.forall_mem_cons] at h
  obtain ⟨hname, hfirmware, hgroup, hserial, -⟩ := h
  exact .iso (.pair (faithful_eui64 _) <| .pair (faithful_eui64 _) <|
    .pair (faithful_word32 _) <| .pair (faithful_word16 _) <| .pair (faithful_word16 _) <|
    .pair (faithful_word16 _) <| .pair (faithful_word16 _) <| .pair (faithful_word32 _) <|
    .pair (faithful_word32 _) <| .pair (faithful_eui64 _) <| .pair (readsBack_text hname) <|
    .pair (faithful_word16 _) <| .pair (faithful_word16 _) <| .pair (readsBack_text hfirmware) <|
    .pair (readsBack_text hgroup) <| .pair (readsBack_text hserial) <|
    .pair (faithful_word16 _) (faithful_word16 _)) rfl

theorem VideoUnit.readsBack_layout {u : VideoUnit}
    (h : u.objectName.utf8ByteSize ≤ Layout.textWidth) :
    layout.ReadsBack u { u with objectName := Utf8.beforeNul u.objectName } :=
  .iso (.pair (readsBack_text h) <| .pair (faithful_word16 _) <| .pair (faithful_word16 _)
    (Resources.faithful_layout _)) rfl

theorem Jack.readsBack_layout {j : Jack} (h : j.objectName.utf8ByteSize ≤ Layout.textWidth) :
    layout.ReadsBack j { j with objectName := Utf8.beforeNul j.objectName } :=
  .iso (.pair (readsBack_text h) <| .pair (faithful_word16 _) <| .pair (faithful_word16 _) <|
    .pair (faithful_word16 _) (Span.faithful_layout _)) rfl

theorem AvbInterface.readsBack_layout {i : AvbInterface}
    (h : i.objectName.utf8ByteSize ≤ Layout.textWidth) :
    layout.ReadsBack i { i with objectName := Utf8.beforeNul i.objectName } :=
  .iso (.pair (readsBack_text h) <| .pair (faithful_word16 _) <| .pair (faithful_mac _) <|
    .pair (faithful_word16 _) <| .pair (faithful_eui64 _) <| .pair (faithful_word8 _) <|
    .pair (faithful_word8 _) <| .pair (faithful_word16 _) <| .pair (faithful_word8 _) <|
    .pair (faithful_word8 _) <| .pair (faithful_word8 _) <| .pair (faithful_word8 _) <|
    .pair (faithful_word8 _) <| .pair (faithful_word8 _) (faithful_word16 _)) rfl

theorem ClockSource.readsBack_layout {c : ClockSource}
    (h : c.objectName.utf8ByteSize ≤ Layout.textWidth) :
    layout.ReadsBack c { c with objectName := Utf8.beforeNul c.objectName } :=
  .iso (.pair (readsBack_text h) <| .pair (faithful_word16 _) <| .pair (faithful_word16 _) <|
    .pair (faithful_word16 _) <| .pair (faithful_eui64 _) <|
    .pair (faithful_word16 _) (faithful_word16 _)) rfl

theorem Locale.readsBack_layout {l : Locale}
    (h : l.localeIdentifier.utf8ByteSize ≤ Layout.textWidth) :
    layout.ReadsBack l { l with localeIdentifier := Utf8.beforeNul l.localeIdentifier } :=
  .iso (.pair (readsBack_text h) <| .pair (faithful_word16 _) (faithful_word16 _)) rfl

theorem AudioCluster.readsBack_layout {c : AudioCluster}
    (h : c.objectName.utf8ByteSize ≤ Layout.textWidth) :
    layout.ReadsBack c { c with objectName := Utf8.beforeNul c.objectName } :=
  .iso (.pair (readsBack_text h) <| .pair (faithful_word16 _) <| .pair (faithful_word16 _) <|
    .pair (faithful_word16 _) <| .pair (faithful_word16 _) <| .pair (faithful_word32 _) <|
    .pair (faithful_word32 _) <| .pair (faithful_word16 _) (faithful_word8 _)) rfl

/-- A STRINGS descriptor is read back with seven texts. -/
theorem Strings.readsBack_layout {s : Strings}
    (h : ∀ text ∈ s.strings, text.utf8ByteSize ≤ Layout.textWidth)
    (hcapacity : s.strings.length ≤ capacity) :
    layout.ReadsBack s ({ strings := s.strings.map Utf8.beforeNul } : Strings).pad := by
  refine .iso (.vector (w := .ofFn fun i => Utf8.beforeNul (s.strings[i.val]?.getD "")) ?_) ?_
  · intro i
    simp only [Fin.getElem_fin, Vector.getElem_ofFn]
    refine readsBack_text ?_
    cases hi : s.strings[i.val]? with
    | none => exact Nat.zero_le _
    | some text => exact h text (List.mem_of_getElem? hi)
  · rw [pad, mk.injEq]
    -- the places behind the texts have the empty text on both sides, up to the seventh
    refine List.ext_getElem? fun i => ?_
    rw [List.getElem?_append, List.length_map]
    by_cases hi : i < s.strings.length
    · have hlt : i < capacity := Nat.lt_of_lt_of_le hi hcapacity
      simp [hi, hlt]
    · have hempty : Utf8.beforeNul "" = "" := Utf8.beforeNul_eq_self List.not_mem_nil
      have hplace : i < capacity ↔ i - s.strings.length < capacity - s.strings.length := by omega
      simp only [Vector.toList_ofFn, List.getElem?_ofFn,
        List.getElem?_eq_none (Nat.le_of_not_lt hi), Option.getD_none, hempty, hi, if_false,
        List.getElem?_replicate, hplace, dite_eq_ite]

/-! ## Bodies with trailing arrays -/

section

variable (rest : Octets)

theorem Summary.parse_write {c : Summary} (h : c.objectName.utf8ByteSize ≤ Layout.textWidth)
    (hlength : c.descriptorCounts.length < 65536) :
    parse (c.write ++ rest) = .ok { c with objectName := Utf8.beforeNul c.objectName } := by
  have hhead : head.ReadsBack
      (c.objectName, c.localizedDescription, countWord c.descriptorCounts, offsetWord countsOffset)
      (Utf8.beforeNul c.objectName, c.localizedDescription, countWord c.descriptorCounts,
        offsetWord countsOffset) :=
    .pair (readsBack_text h) <| .pair (faithful_word16 _) <| .pair (faithful_word16 _)
      (faithful_word16 _)
  have hoffset : countsOffset < 65536 := by decide
  have hcounts := parseArray_writeArray DescriptorCount.faithful_layout hlength rest
  simp only [parse, write, List.append_assoc, hhead.parse, bind_ok,
    checkOffset_offsetWord _ hoffset, Layout.drop_write_append, hcounts]
  rfl

theorem AudioUnit.parse_write {u : AudioUnit} (h : u.objectName.utf8ByteSize ≤ Layout.textWidth)
    (hlength : u.samplingRates.length < 65536) :
    parse (u.write ++ rest) = .ok { u with objectName := Utf8.beforeNul u.objectName } := by
  have hhead : head.ReadsBack
      (u.objectName, u.localizedDescription, u.clockDomainIndex, u.resources,
        u.currentSamplingRate, offsetWord ratesOffset, countWord u.samplingRates)
      (Utf8.beforeNul u.objectName, u.localizedDescription, u.clockDomainIndex, u.resources,
        u.currentSamplingRate, offsetWord ratesOffset, countWord u.samplingRates) :=
    .pair (readsBack_text h) <| .pair (faithful_word16 _) <| .pair (faithful_word16 _) <|
      .pair (Resources.faithful_layout _) <| .pair (faithful_word32 _) <|
      .pair (faithful_word16 _) (faithful_word16 _)
  have hoffset : ratesOffset < 65536 := by decide
  have hrates := parseArray_writeArray faithful_word32 hlength rest
  simp only [parse, write, List.append_assoc, hhead.parse, bind_ok,
    checkOffset_offsetWord _ hoffset, Layout.drop_write_append, hrates]
  rfl

theorem Stream.parse_write {s : Stream} (h : s.objectName.utf8ByteSize ≤ Layout.textWidth)
    (hlength : s.formats.length < 65536) :
    parse (s.write ++ rest) = .ok { s with objectName := Utf8.beforeNul s.objectName } := by
  have hhead : head.ReadsBack
      (s.objectName, s.localizedDescription, s.clockDomainIndex, s.streamFlags, s.currentFormat,
        offsetWord formatsOffset, countWord s.formats, s.backupTalkers, s.backedupTalker,
        s.avbInterfaceIndex, s.bufferLength)
      (Utf8.beforeNul s.objectName, s.localizedDescription, s.clockDomainIndex, s.streamFlags,
        s.currentFormat, offsetWord formatsOffset, countWord s.formats, s.backupTalkers,
        s.backedupTalker, s.avbInterfaceIndex, s.bufferLength) :=
    .pair (readsBack_text h) <| .pair (faithful_word16 _) <| .pair (faithful_word16 _) <|
      .pair (faithful_word16 _) <| .pair (faithful_word64 _) <| .pair (faithful_word16 _) <|
      .pair (faithful_word16 _) <| .pair (TalkerRef.faithful_layout.vector 3 _) <|
      .pair (TalkerRef.faithful_layout _) <| .pair (faithful_word16 _) (faithful_word32 _)
  have hoffset : formatsOffset < 65536 := by decide
  have hformats := parseArray_writeArray faithful_word64 hlength rest
  simp only [parse, write, List.append_assoc, hhead.parse, bind_ok,
    checkOffset_offsetWord _ hoffset, Layout.drop_write_append, hformats]
  rfl

theorem ClockDomain.parse_write {d : ClockDomain}
    (h : d.objectName.utf8ByteSize ≤ Layout.textWidth) (hlength : d.clockSources.length < 65536) :
    parse (d.write ++ rest) = .ok { d with objectName := Utf8.beforeNul d.objectName } := by
  have hhead : head.ReadsBack
      (d.objectName, d.localizedDescription, d.clockSourceIndex, offsetWord sourcesOffset,
        countWord d.clockSources)
      (Utf8.beforeNul d.objectName, d.localizedDescription, d.clockSourceIndex,
        offsetWord sourcesOffset, countWord d.clockSources) :=
    .pair (readsBack_text h) <| .pair (faithful_word16 _) <| .pair (faithful_word16 _) <|
      .pair (faithful_word16 _) (faithful_word16 _)
  have hoffset : sourcesOffset < 65536 := by decide
  have hsources := parseArray_writeArray faithful_word16 hlength rest
  simp only [parse, write, List.append_assoc, hhead.parse, bind_ok,
    checkOffset_offsetWord _ hoffset, Layout.drop_write_append, hsources]
  rfl

theorem parseMappings_writeMappings {α : Type} {l : Layout α} (hl : l.Faithful) {mappings : List α}
    (hlength : mappings.length < 65536) :
    parseMappings l (writeMappings l mappings ++ rest) = .ok mappings := by
  have hhead : mapHead.ReadsBack (offsetWord mappingsOffset, countWord mappings)
      (offsetWord mappingsOffset, countWord mappings) :=
    .pair (faithful_word16 _) (faithful_word16 _)
  have hoffset : mappingsOffset < 65536 := by decide
  have hmappings := parseArray_writeArray hl hlength rest
  simp only [parseMappings, writeMappings, List.append_assoc, hhead.parse, bind_ok,
    checkOffset_offsetWord _ hoffset, Layout.drop_write_append, hmappings]
  rfl

theorem VideoCluster.faithful_choice {α : Type} {l : Layout α} (hl : l.Faithful) :
    (choice l).Faithful :=
  hl.pair <| faithful_word16.pair faithful_word16

/-- The last of the arrays ends where the descriptor ends. -/
theorem VideoCluster.length_write (c : VideoCluster) :
    headWidth + c.write.length = c.spacesOffset + 2 * c.supportedColorSpaces.length := by
  have hword16 : Layout.word16.width = 2 := rfl
  have hword32 : Layout.word32.width = 4 := rfl
  simp only [write, List.length_append, head.length_write, Layout.length_writeArray, hword16,
    hword32, spacesOffset, sizesOffset, ratiosOffset, ratesOffset, arraysOffset]
  omega

/-- The five arrays of a video cluster are behind each other, and no offset is cut off as long as
the last one is not. -/
theorem VideoCluster.parse_write {c : VideoCluster}
    (h : c.objectName.utf8ByteSize ≤ Layout.textWidth) (hoffset : c.spacesOffset < 65536)
    (hlength : c.supportedColorSpaces.length < 65536) :
    parse (c.write ++ rest) = .ok { c with objectName := Utf8.beforeNul c.objectName } := by
  have hhead : head.ReadsBack
      ((c.objectName, c.localizedDescription, c.signalType, c.signalIndex, c.signalOutput,
          c.pathLatency, c.blockLatency, c.format),
        (c.currentFormatSpecific, offsetWord arraysOffset, countWord c.supportedFormatSpecifics),
        (c.currentSamplingRate, offsetWord c.ratesOffset, countWord c.supportedSamplingRates),
        (c.currentAspectRatio, offsetWord c.ratiosOffset, countWord c.supportedAspectRatios),
        (c.currentSize, offsetWord c.sizesOffset, countWord c.supportedSizes),
        (c.currentColorSpace, offsetWord c.spacesOffset, countWord c.supportedColorSpaces))
      ((Utf8.beforeNul c.objectName, c.localizedDescription, c.signalType, c.signalIndex,
          c.signalOutput, c.pathLatency, c.blockLatency, c.format),
        (c.currentFormatSpecific, offsetWord arraysOffset, countWord c.supportedFormatSpecifics),
        (c.currentSamplingRate, offsetWord c.ratesOffset, countWord c.supportedSamplingRates),
        (c.currentAspectRatio, offsetWord c.ratiosOffset, countWord c.supportedAspectRatios),
        (c.currentSize, offsetWord c.sizesOffset, countWord c.supportedSizes),
        (c.currentColorSpace, offsetWord c.spacesOffset, countWord c.supportedColorSpaces)) :=
    .pair (.pair (readsBack_text h) <| .pair (faithful_word16 _) <| .pair (faithful_word16 _) <|
        .pair (faithful_word16 _) <| .pair (faithful_word16 _) <| .pair (faithful_word32 _) <|
        .pair (faithful_word32 _) (faithful_word8 _)) <|
      .pair (faithful_choice faithful_word32 _) <| .pair (faithful_choice faithful_word32 _) <|
      .pair (faithful_choice faithful_word16 _) <| .pair (faithful_choice faithful_word32 _)
      (faithful_choice faithful_word16 _)
  simp only [spacesOffset, sizesOffset, ratiosOffset, ratesOffset] at hhead hoffset
  simp only [parse, write, spacesOffset, sizesOffset, ratiosOffset, ratesOffset, List.append_assoc,
    hhead.parse, bind_ok, Layout.drop_write_append,
    parseArray_writeArray faithful_word32 (show c.supportedFormatSpecifics.length < 65536 by omega),
    parseArray_writeArray faithful_word32 (show c.supportedSamplingRates.length < 65536 by omega),
    parseArray_writeArray faithful_word16 (show c.supportedAspectRatios.length < 65536 by omega),
    parseArray_writeArray faithful_word32 (show c.supportedSizes.length < 65536 by omega),
    parseArray_writeArray faithful_word16 hlength]
  simp (disch := omega) only [checkOffset_offsetWord, bind_ok]
  rfl

end

/-! ## All bodies -/

/-- A body within its limits is read back in normal form. -/
theorem Body.parse_write {b : Body} (hknown : b.isKnown)
    (htexts : ∀ t ∈ b.texts, t.2.utf8ByteSize ≤ Layout.textWidth)
    (hcapacity : ∀ s, b = .strings s → s.strings.length ≤ Strings.capacity)
    (hlength : b.write.length ≤ maxLength) (rest : Octets) :
    parse b.kind (b.write ++ rest) = .ok b.normal := by
  -- an array in so few octets has few entries
  have hfew {α : Type} {l : Layout α} (hl : 0 < l.width) (n : Nat) (xs : List α)
      (h : n + (l.writeArray xs).length ≤ maxLength) : xs.length < 65536 := by
    have := Layout.length_le_writeArray hl xs
    rw [maxLength] at h
    omega
  cases b with
  | configuration c =>
    have htext := htexts _ (List.mem_singleton_self _)
    rw [write, Summary.write, List.length_append] at hlength
    exact congrArg (Body.configuration <$> ·)
      (c.parse_write rest htext (hfew (by decide) _ _ hlength))
  | audioUnit u =>
    have htext := htexts _ (List.mem_singleton_self _)
    rw [write, AudioUnit.write, List.length_append] at hlength
    exact congrArg (Body.audioUnit <$> ·)
      (u.parse_write rest htext (hfew (by decide) _ _ hlength))
  | videoUnit u =>
    have htext := htexts _ (List.mem_singleton_self _)
    exact congrArg (Body.videoUnit <$> ·) ((u.readsBack_layout htext).parse rest)
  | stream direction s =>
    have htext := htexts _ (List.mem_singleton_self _)
    rw [write, Stream.write, List.length_append] at hlength
    have hparse := s.parse_write rest htext (hfew (by decide) _ _ hlength)
    cases direction with
    | input => exact congrArg (Body.stream .input <$> ·) hparse
    | output => exact congrArg (Body.stream .output <$> ·) hparse
  | jack direction j =>
    have hparse := (j.readsBack_layout (htexts _ (List.mem_singleton_self _))).parse rest
    cases direction with
    | input => exact congrArg (Body.jack .input <$> ·) hparse
    | output => exact congrArg (Body.jack .output <$> ·) hparse
  | avbInterface i =>
    have htext := htexts _ (List.mem_singleton_self _)
    exact congrArg (Body.avbInterface <$> ·) ((i.readsBack_layout htext).parse rest)
  | clockSource c =>
    have htext := htexts _ (List.mem_singleton_self _)
    exact congrArg (Body.clockSource <$> ·) ((c.readsBack_layout htext).parse rest)
  | locale l =>
    have htext := htexts _ (List.mem_singleton_self _)
    exact congrArg (Body.locale <$> ·) ((l.readsBack_layout htext).parse rest)
  | strings s =>
    have hstrings : ∀ text ∈ s.strings, text.utf8ByteSize ≤ Layout.textWidth :=
      fun text htext => htexts ("strings", text) (List.mem_map_of_mem htext)
    exact congrArg (Body.strings <$> ·)
      ((s.readsBack_layout hstrings (hcapacity s rfl)).parse rest)
  | streamPort direction p =>
    have hparse := ReadsBack.parse (StreamPort.faithful_layout p) rest
    cases direction with
    | input => exact congrArg (Body.streamPort .input <$> ·) hparse
    | output => exact congrArg (Body.streamPort .output <$> ·) hparse
  | audioCluster c =>
    have htext := htexts _ (List.mem_singleton_self _)
    exact congrArg (Body.audioCluster <$> ·) ((c.readsBack_layout htext).parse rest)
  | videoCluster c =>
    have htext := htexts _ (List.mem_singleton_self _)
    have hend := c.length_write
    rw [write, maxLength] at hlength
    rw [headWidth] at hend
    exact congrArg (Body.videoCluster <$> ·)
      (c.parse_write rest htext (by omega) (by omega))
  | audioMap mappings =>
    rw [write, writeMappings, List.length_append] at hlength
    exact congrArg (Body.audioMap <$> ·)
      (parseMappings_writeMappings rest AudioMapping.faithful_layout
        (hfew (by decide) _ _ hlength))
  | videoMap mappings =>
    rw [write, writeMappings, List.length_append] at hlength
    exact congrArg (Body.videoMap <$> ·)
      (parseMappings_writeMappings rest VideoMapping.faithful_layout
        (hfew (by decide) _ _ hlength))
  | clockDomain d =>
    have htext := htexts _ (List.mem_singleton_self _)
    rw [write, ClockDomain.write, List.length_append] at hlength
    exact congrArg (Body.clockDomain <$> ·)
      (d.parse_write rest htext (hfew (by decide) _ _ hlength))
  | unsupported kind => exact absurd hknown Bool.false_ne_true

/-! ## All descriptors -/

/-- Only the ENTITY is of its kind among the known descriptors. -/
theorem Body.kind_ne_entity {b : Body} (hknown : b.isKnown) : b.kind ≠ .entity := by
  cases b with
  | stream direction s => cases direction <;> exact Kind.noConfusion
  | jack direction j => cases direction <;> exact Kind.noConfusion
  | streamPort direction p => cases direction <;> exact Kind.noConfusion
  | unsupported kind => exact absurd hknown Bool.false_ne_true
  | _ => exact Kind.noConfusion

theorem encode_numbered {index : UInt16} {b : Body} (hknown : b.isKnown) :
    (numbered index b).encode = head.write (b.kind.code, index) ++ b.write := by
  cases b with
  | unsupported kind => exact absurd hknown Bool.false_ne_true
  | _ => rfl

/-- Exactly the known descriptors have octets. -/
theorem isEmpty_encode (d : Descriptor) : d.encode.isEmpty = !d.isKnown := by
  have hhead : ∀ code index (body : Octets),
      (head.write (code, index) ++ body).isEmpty = false := by
    intro code index body
    rw [List.isEmpty_eq_false_iff, ← List.length_pos_iff, List.length_append,
      Layout.length_write]
    exact Nat.lt_of_lt_of_le (by decide) (Nat.le_add_right ..)
  cases d with
  | entity e => exact hhead ..
  | numbered index b =>
    cases hknown : b.isKnown with
    | true =>
      rw [encode_numbered hknown, hhead, isKnown, hknown]
      rfl
    | false =>
      cases b with
      | unsupported kind => rfl
      | _ => cases hknown

theorem parse_head_append (code index : UInt16) (rest : Octets) :
    head.parse (head.write (code, index) ++ rest) = .ok (code, index) :=
  ReadsBack.parse (.pair (faithful_word16 code) (faithful_word16 index)) rest

/-- What is read behind the type code and the index of a descriptor other than the ENTITY. -/
theorem parse_numbered {kind : Kind} (hkind : kind ≠ .entity) (index : UInt16) (rest : Octets) :
    parse (head.write (kind.code, index) ++ rest) =
      Descriptor.numbered index <$> Body.parse kind rest := by
  have hdrop : (head.write (kind.code, index) ++ rest).drop headWidth = rest :=
    Layout.drop_write_append head _ rest
  simp only [parse, parse_head_append, bind_ok, Kind.ofCode?_code, hdrop]

/-- A descriptor within its limits is read back in normal form, whatever follows. -/
theorem parse_encode_append {d : Descriptor} (hknown : d.isKnown) (h : d.Fits) (rest : Octets) :
    parse (d.encode ++ rest) = .ok d.normal := by
  have hlength := h.length
  cases d with
  | entity e =>
    have hdrop : (head.write (Kind.entity.code, 0) ++ (Entity.layout.write e ++ rest)).drop
        headWidth = Entity.layout.write e ++ rest := Layout.drop_write_append head _ _
    simp only [encode, parse, List.append_assoc, parse_head_append, bind_ok, Kind.ofCode?_code,
      hdrop, (Entity.readsBack_layout h.texts).parse]
    rfl
  | numbered index b =>
    rw [encode_numbered hknown, List.length_append] at hlength
    rw [encode_numbered hknown, List.append_assoc, parse_numbered (Body.kind_ne_entity hknown),
      Body.parse_write hknown h.texts (fun s hs => h.capacity index s (hs ▸ rfl))
        (Nat.le_trans (Nat.le_add_left ..) hlength)]
    rfl

/-- What is read back of a descriptor: everything but what its texts have after a NUL. -/
structure Reads (d d' : Descriptor) : Prop where
  /-- Whatever follows the octets. -/
  parse : ∀ rest, parse (d.encode ++ rest) = .ok d'
  kind : d'.kind = d.kind
  index : d'.index = d.index
  /-- Every number, every range and every entry of an array is as it was. -/
  mute : d'.mute = d.mute
  /-- The texts are cut, and those of a STRINGS descriptor filled up. -/
  texts : d' = (d.mapTexts Utf8.beforeNul).pad
  /-- Nothing is lost of a descriptor without NUL and with seven texts in STRINGS. -/
  plain : d.IsPlain → d' = d

/-- **Reading undoes writing**: every descriptor of a kind that has a layout, and which keeps within
the limits that are checked, is read back from its octets, whatever follows them. -/
theorem reads_of_check {d : Descriptor} (hknown : d.isKnown) (hcheck : d.check = .ok ()) :
    d.Reads d.normal where
  parse := parse_encode_append hknown (check_eq_ok.mp hcheck)
  kind := kind_normal
  index := index_normal
  mute := d.mute_normal
  texts := rfl
  plain := normal_eq_self

/-- A video cluster with entries in four of its arrays, under some name. -/
def overview (objectName : String) : Descriptor :=
  .numbered 3 (.videoCluster {
    objectName
    supportedFormatSpecifics := [1, 2]
    supportedSamplingRates := [48000]
    supportedAspectRatios := [5, 6, 7]
    supportedColorSpaces := [8] })

/-- What it holds is read back, and its name up to the NUL. -/
theorem reads_overview :
    (overview "Übersicht\x00!").isKnown ∧ (overview "Übersicht\x00!").check = .ok () ∧
      (overview "Übersicht\x00!").Reads (overview "Übersicht") := by
  have hcheck : (overview "Übersicht\x00!").check = .ok () :=
    toOption_eq_some.mp (by decide +kernel)
  have hnormal : (overview "Übersicht\x00!").normal = overview "Übersicht" := by
    decide +kernel
  exact ⟨rfl, hcheck, hnormal ▸ reads_of_check rfl hcheck⟩

end Descriptor

end AvbEntity

import AvbEntity.Proofs.Descriptor.Codec
import AvbEntity.Proofs.Wire.Plan

/-!
# How descriptors are read

The plans of all descriptors. Reading a descriptor is carrying out its plan, the layouts of a plan
are exact up to the texts, and what is read is written as the parts of the plan are: the offsets and
numbers of entries that writing puts into the fixed part are those that were found there.

## Main definitions

* `Kind.textOffsets`: where the text fields of a descriptor of a kind stand
* `Descriptor.withArray`: the plan of a fixed part with one array behind it
* `Descriptor.Body.plan`, `Descriptor.plan`: the plans of a body and of a descriptor

## Main results

* `Descriptor.Body.run_plan`, `Descriptor.run_plan`: reading is carrying out the plan
* `Descriptor.Body.exact_plan`: nothing but the repair of texts is lost of a body
* `Descriptor.Body.writesAs_plan`: a body is written as its parts are
-/

namespace AvbEntity

/-- Where the text fields of a descriptor of the kind stand, from the start of the descriptor. -/
def Kind.textOffsets : Kind → List Nat
  | .entity => [48, 116, 180, 244]
  | .strings => [4, 68, 132, 196, 260, 324, 388]
  | .configuration | .audioUnit | .videoUnit | .streamInput | .streamOutput | .jackInput
  | .jackOutput | .avbInterface | .clockSource | .locale | .audioCluster | .videoCluster
  | .clockDomain => [4]
  | _ => []

namespace Descriptor

/-! ## Layouts -/

theorem Span.exact_layout : Span.layout.Exact [] :=
  .iso (.pair .word16 .word16) fun _ => rfl

theorem Resources.exact_layout : Resources.layout.Exact [] :=
  Span.exact_layout.vector 16

theorem TalkerRef.exact_layout : TalkerRef.layout.Exact [] :=
  .iso (.pair .eui64 .word16) fun _ => rfl

theorem DescriptorCount.exact_layout : DescriptorCount.layout.Exact [] :=
  .iso (.pair .word16 .word16) fun _ => rfl

theorem AudioMapping.exact_layout : AudioMapping.layout.Exact [] :=
  .iso (.pair .word16 <| .pair .word16 <| .pair .word16 .word16) fun _ => rfl

theorem VideoMapping.exact_layout : VideoMapping.layout.Exact [] :=
  .iso (.pair .word16 <| .pair .word16 <| .pair .word16 .word16) fun _ => rfl

theorem StreamPort.exact_layout : StreamPort.layout.Exact [] :=
  .iso (.pair .word16 <| .pair .word16 <| .pair Span.exact_layout <|
    .pair Span.exact_layout Span.exact_layout) fun _ => rfl

theorem Entity.exact_layout : Entity.layout.Exact [44, 112, 176, 240] :=
  .iso (.pair .eui64 <| .pair .eui64 <| .pair .word32 <| .pair .word16 <| .pair .word16 <|
    .pair .word16 <| .pair .word16 <| .pair .word32 <| .pair .word32 <| .pair .eui64 <|
    .pair .text <| .pair .word16 <| .pair .word16 <| .pair .text <| .pair .text <| .pair .text <|
    .pair .word16 .word16) fun _ => rfl

theorem VideoUnit.exact_layout : VideoUnit.layout.Exact [0] :=
  .iso (.pair .text <| .pair .word16 <| .pair .word16 Resources.exact_layout) fun _ => rfl

theorem Jack.exact_layout : Jack.layout.Exact [0] :=
  .iso (.pair .text <| .pair .word16 <| .pair .word16 <| .pair .word16 Span.exact_layout)
    fun _ => rfl

theorem AvbInterface.exact_layout : AvbInterface.layout.Exact [0] :=
  .iso (.pair .text <| .pair .word16 <| .pair .mac <| .pair .word16 <| .pair .eui64 <|
    .pair .word8 <| .pair .word8 <| .pair .word16 <| .pair .word8 <| .pair .word8 <|
    .pair .word8 <| .pair .word8 <| .pair .word8 <| .pair .word8 .word16) fun _ => rfl

theorem ClockSource.exact_layout : ClockSource.layout.Exact [0] :=
  .iso (.pair .text <| .pair .word16 <| .pair .word16 <| .pair .word16 <| .pair .eui64 <|
    .pair .word16 .word16) fun _ => rfl

theorem Locale.exact_layout : Locale.layout.Exact [0] :=
  .iso (.pair .text <| .pair .word16 .word16) fun _ => rfl

theorem AudioCluster.exact_layout : AudioCluster.layout.Exact [0] :=
  .iso (.pair .text <| .pair .word16 <| .pair .word16 <| .pair .word16 <| .pair .word16 <|
    .pair .word32 <| .pair .word32 <| .pair .word16 .word8) fun _ => rfl

/-- The seven texts that are read are the seven texts that are written. -/
theorem Strings.exact_layout : Strings.layout.Exact [0, 64, 128, 192, 256, 320, 384] := by
  refine .iso (Layout.Exact.text.vector capacity) fun texts => ?_
  ext i hi
  simp

/-! ## One array behind a fixed part -/

/-- The offset that was looked for is written as it was found. -/
theorem offsetWord_eq {found : UInt16} {expected : Nat} (h : found.toNat = expected) :
    offsetWord expected = found := by
  rw [offsetWord, ← h, UInt16.ofNat_toNat]

/-- The number of entries is written as it was found. -/
theorem countWord_readArray {α : Type} (l : Layout α) (count : UInt16) (bs : Octets) :
    countWord (l.readArray count.toNat bs) = count := by
  rw [countWord, Layout.length_readArray, UInt16.ofNat_toNat]

section

variable {η α β : Type}

/-- A fixed part that holds the offset and the number of entries of an array, and the array. -/
def withArray (head : Layout η) (offset count : η → UInt16) (field : String) (expected : Nat)
    (l : Layout β) (make : η → List β → α) : Plan α :=
  .part head fun h => .checkOffset field (offset h) expected <|
    .array l (count h) fun xs => .give (make h xs)

variable {head : Layout η} {offset count : η → UInt16} {field : String} {expected : Nat}
  {l : Layout β} {make : η → List β → α}

theorem run_withArray (bs : Octets) :
    (withArray head offset count field expected l make).run bs = do
      let h ← head.parse bs
      checkOffset field (offset h) expected
      let (xs, _) ← l.parseArray (count h) (bs.drop head.width)
      return make h xs := by
  simp only [withArray, Plan.run, Plan.run_checkOffset]
  rfl

theorem exact_withArray {s : List Nat} (hhead : head.Exact s) (hl : l.Exact []) :
    (withArray head offset count field expected l make).Exact s :=
  .part hhead fun _ => .checkOffset (.array hl fun _ => .give _)

/-- The offset that is found is the one of the layout, and the number that is found is the number of
the entries. -/
theorem writesAs_withArray {write : α → Octets}
    (hwrite : ∀ h xs, offset h = offsetWord expected → count h = countWord xs →
      write (make h xs) = head.write h ++ l.writeArray xs) :
    (withArray head offset count field expected l make).WritesAs write := by
  intro bs a hrun
  obtain ⟨-, hrun⟩ := Plan.run_part_eq_ok.mp hrun
  obtain ⟨hoffset, hrun⟩ := Plan.run_checkOffset_eq_ok.mp hrun
  obtain ⟨-, hrun⟩ := Plan.run_array_eq_ok.mp hrun
  obtain rfl := Except.ok.inj hrun
  rw [hwrite _ _ (offsetWord_eq hoffset).symm (countWord_readArray ..).symm, withArray,
    Plan.rewrite, Plan.rewrite_checkOffset hoffset, Plan.rewrite, Plan.rewrite, List.append_nil]

end

namespace Summary

/-- The plan of the body. -/
def plan : Plan Summary :=
  withArray head (·.2.2.2) (·.2.2.1) "descriptor_counts_offset" countsOffset
    DescriptorCount.layout fun (objectName, localizedDescription, _) descriptorCounts =>
      { objectName, localizedDescription, descriptorCounts }

theorem run_plan (bs : Octets) : plan.run bs = parse bs :=
  run_withArray bs

theorem exact_plan : plan.Exact [0] :=
  exact_withArray (.pair .text <| .pair .word16 <| .pair .word16 .word16)
    DescriptorCount.exact_layout

theorem writesAs_plan : plan.WritesAs write := by
  refine writesAs_withArray ?_
  rintro ⟨objectName, localizedDescription, count, offset⟩ xs rfl rfl
  rfl

end Summary

namespace AudioUnit

/-- The plan of the body. -/
def plan : Plan AudioUnit :=
  withArray head (·.2.2.2.2.2.1) (·.2.2.2.2.2.2) "sampling_rates_offset" ratesOffset .word32
    fun (objectName, localizedDescription, clockDomainIndex, resources, currentSamplingRate, _)
        samplingRates =>
      { objectName, localizedDescription, clockDomainIndex, resources, currentSamplingRate,
        samplingRates }

theorem run_plan (bs : Octets) : plan.run bs = parse bs :=
  run_withArray bs

theorem exact_plan : plan.Exact [0] :=
  exact_withArray (.pair .text <| .pair .word16 <| .pair .word16 <|
    .pair Resources.exact_layout <| .pair .word32 <| .pair .word16 .word16) .word32

theorem writesAs_plan : plan.WritesAs write := by
  refine writesAs_withArray ?_
  rintro ⟨objectName, localizedDescription, clockDomainIndex, resources, currentSamplingRate,
    offset, count⟩ xs rfl rfl
  rfl

end AudioUnit

namespace Stream

/-- The plan of the body. -/
def plan : Plan Stream :=
  withArray head (·.2.2.2.2.2.1) (·.2.2.2.2.2.2.1) "formats_offset" formatsOffset .word64
    fun (objectName, localizedDescription, clockDomainIndex, streamFlags, currentFormat, _, _,
        backupTalkers, backedupTalker, avbInterfaceIndex, bufferLength) formats =>
      { objectName, localizedDescription, clockDomainIndex, streamFlags, currentFormat, formats,
        backupTalkers, backedupTalker, avbInterfaceIndex, bufferLength }

theorem run_plan (bs : Octets) : plan.run bs = parse bs :=
  run_withArray bs

theorem exact_plan : plan.Exact [0] :=
  exact_withArray (.pair .text <| .pair .word16 <| .pair .word16 <| .pair .word16 <|
    .pair .word64 <| .pair .word16 <| .pair .word16 <| .pair (TalkerRef.exact_layout.vector 3) <|
    .pair TalkerRef.exact_layout <| .pair .word16 .word32) .word64

theorem writesAs_plan : plan.WritesAs write := by
  refine writesAs_withArray ?_
  rintro ⟨objectName, localizedDescription, clockDomainIndex, streamFlags, currentFormat, offset,
    count, backupTalkers, backedupTalker, avbInterfaceIndex, bufferLength⟩ xs rfl rfl
  rfl

end Stream

namespace ClockDomain

/-- The plan of the body. -/
def plan : Plan ClockDomain :=
  withArray head (·.2.2.2.1) (·.2.2.2.2) "clock_sources_offset" sourcesOffset .word16
    fun (objectName, localizedDescription, clockSourceIndex, _) clockSources =>
      { objectName, localizedDescription, clockSourceIndex, clockSources }

theorem run_plan (bs : Octets) : plan.run bs = parse bs :=
  run_withArray bs

theorem exact_plan : plan.Exact [0] :=
  exact_withArray (.pair .text <| .pair .word16 <| .pair .word16 <| .pair .word16 .word16) .word16

theorem writesAs_plan : plan.WritesAs write := by
  refine writesAs_withArray ?_
  rintro ⟨objectName, localizedDescription, clockSourceIndex, offset, count⟩ xs rfl rfl
  rfl

end ClockDomain

section

variable {α : Type} (l : Layout α)

/-- The plan of the body of a map. -/
def mapPlan : Plan (List α) :=
  withArray mapHead (·.1) (·.2) "mappings_offset" mappingsOffset l fun _ mappings => mappings

theorem run_mapPlan (bs : Octets) : (mapPlan l).run bs = parseMappings l bs :=
  run_withArray bs

variable {l}

theorem exact_mapPlan (hl : l.Exact []) : (mapPlan l).Exact [] :=
  exact_withArray (.pair .word16 .word16) hl

theorem writesAs_mapPlan : (mapPlan l).WritesAs (writeMappings l) := by
  refine writesAs_withArray ?_
  rintro ⟨offset, count⟩ xs rfl rfl
  rfl

end

/-! ## The five arrays of a video cluster -/

namespace VideoCluster

/-- The plan of the body: the five arrays are read before any of the offsets is looked at. -/
def plan : Plan VideoCluster :=
  .part head fun ((objectName, localizedDescription, signalType, signalIndex, signalOutput,
      pathLatency, blockLatency, format),
    (currentFormatSpecific, foundSpecifics, specifics),
    (currentSamplingRate, foundRates, rates),
    (currentAspectRatio, foundRatios, ratios),
    (currentSize, foundSizes, sizes),
    (currentColorSpace, foundSpaces, spaces)) =>
  .array .word32 specifics fun supportedFormatSpecifics =>
  .array .word32 rates fun supportedSamplingRates =>
  .array .word16 ratios fun supportedAspectRatios =>
  .array .word32 sizes fun supportedSizes =>
  .array .word16 spaces fun supportedColorSpaces =>
  let c : VideoCluster :=
    { objectName, localizedDescription, signalType, signalIndex, signalOutput, pathLatency,
      blockLatency, format, currentFormatSpecific, supportedFormatSpecifics, currentSamplingRate,
      supportedSamplingRates, currentAspectRatio, supportedAspectRatios, currentSize,
      supportedSizes, currentColorSpace, supportedColorSpaces }
  .checkOffset "format_specifics_offset" foundSpecifics arraysOffset <|
  .checkOffset "sampling_rates_offset" foundRates c.ratesOffset <|
  .checkOffset "aspect_ratios_offset" foundRatios c.ratiosOffset <|
  .checkOffset "sizes_offset" foundSizes c.sizesOffset <|
  .checkOffset "color_spaces_offset" foundSpaces c.spacesOffset <|
  .give c

theorem run_plan (bs : Octets) : plan.run bs = parse bs := by
  simp only [plan, Plan.run, Plan.run_checkOffset]
  rfl

theorem exact_choice {α : Type} {l : Layout α} (hl : l.Exact []) : (choice l).Exact [] :=
  .pair hl (.pair .word16 .word16)

theorem exact_head : head.Exact [0] :=
  .pair (.pair .text <| .pair .word16 <| .pair .word16 <| .pair .word16 <| .pair .word16 <|
      .pair .word32 <| .pair .word32 .word8) <|
    .pair (exact_choice .word32) <| .pair (exact_choice .word32) <|
    .pair (exact_choice .word16) <| .pair (exact_choice .word32) (exact_choice .word16)

theorem exact_plan : plan.Exact [0] :=
  .part exact_head fun _ => .array .word32 fun _ => .array .word32 fun _ => .array .word16 fun _ =>
    .array .word32 fun _ => .array .word16 fun _ => .checkOffset <| .checkOffset <|
    .checkOffset <| .checkOffset <| .checkOffset <| .give _

/-- Each of the offsets that are found counts the entries in front of it, and each of the numbers
that are found the entries behind it. -/
theorem writesAs_plan : plan.WritesAs write := by
  intro bs c hrun
  rw [plan] at hrun ⊢
  obtain ⟨-, hrun⟩ := Plan.run_part_eq_ok.mp hrun
  rw [Plan.rewrite]
  generalize head.read bs = values at hrun ⊢
  obtain ⟨⟨objectName, localizedDescription, signalType, signalIndex, signalOutput, pathLatency,
      blockLatency, format⟩,
    ⟨currentFormatSpecific, foundSpecifics, specifics⟩, ⟨currentSamplingRate, foundRates, rates⟩,
    ⟨currentAspectRatio, foundRatios, ratios⟩, ⟨currentSize, foundSizes, sizes⟩,
    ⟨currentColorSpace, foundSpaces, spaces⟩⟩ := values
  obtain ⟨-, hrun⟩ := Plan.run_array_eq_ok.mp hrun
  obtain ⟨-, hrun⟩ := Plan.run_array_eq_ok.mp hrun
  obtain ⟨-, hrun⟩ := Plan.run_array_eq_ok.mp hrun
  obtain ⟨-, hrun⟩ := Plan.run_array_eq_ok.mp hrun
  obtain ⟨-, hrun⟩ := Plan.run_array_eq_ok.mp hrun
  obtain ⟨hspecifics, hrun⟩ := Plan.run_checkOffset_eq_ok.mp hrun
  obtain ⟨hrates, hrun⟩ := Plan.run_checkOffset_eq_ok.mp hrun
  obtain ⟨hratios, hrun⟩ := Plan.run_checkOffset_eq_ok.mp hrun
  obtain ⟨hsizes, hrun⟩ := Plan.run_checkOffset_eq_ok.mp hrun
  obtain ⟨hspaces, hrun⟩ := Plan.run_checkOffset_eq_ok.mp hrun
  simp only [Plan.rewrite, Plan.rewrite_checkOffset hspecifics, Plan.rewrite_checkOffset hrates,
    Plan.rewrite_checkOffset hratios, Plan.rewrite_checkOffset hsizes,
    Plan.rewrite_checkOffset hspaces]
  obtain rfl := Except.ok.inj hrun
  simp only [write, offsetWord_eq hspecifics, offsetWord_eq hrates, offsetWord_eq hratios,
    offsetWord_eq hsizes, offsetWord_eq hspaces, countWord_readArray, List.append_assoc,
    List.append_nil]

end VideoCluster

/-! ## All bodies -/

namespace Body

/-- The plan of the body of a kind. -/
def plan (kind : Kind) : Plan Body :=
  match kind with
  | .configuration => Summary.plan.map .configuration
  | .audioUnit => AudioUnit.plan.map .audioUnit
  | .videoUnit => (Plan.ofLayout VideoUnit.layout).map .videoUnit
  | .streamInput => Stream.plan.map (.stream .input)
  | .streamOutput => Stream.plan.map (.stream .output)
  | .jackInput => (Plan.ofLayout Jack.layout).map (.jack .input)
  | .jackOutput => (Plan.ofLayout Jack.layout).map (.jack .output)
  | .avbInterface => (Plan.ofLayout AvbInterface.layout).map .avbInterface
  | .clockSource => (Plan.ofLayout ClockSource.layout).map .clockSource
  | .locale => (Plan.ofLayout Locale.layout).map .locale
  | .strings => (Plan.ofLayout Strings.layout).map .strings
  | .streamPortInput => (Plan.ofLayout StreamPort.layout).map (.streamPort .input)
  | .streamPortOutput => (Plan.ofLayout StreamPort.layout).map (.streamPort .output)
  | .audioCluster => (Plan.ofLayout AudioCluster.layout).map .audioCluster
  | .videoCluster => VideoCluster.plan.map .videoCluster
  | .audioMap => (mapPlan AudioMapping.layout).map .audioMap
  | .videoMap => (mapPlan VideoMapping.layout).map .videoMap
  | .clockDomain => ClockDomain.plan.map .clockDomain
  | kind => .refuse (.unsupportedDescriptor kind.code)

theorem run_plan (kind : Kind) (bs : Octets) : (plan kind).run bs = parse kind bs := by
  cases kind <;> simp only [plan, parse, Plan.run_map, Plan.run_ofLayout, Summary.run_plan,
    AudioUnit.run_plan, Stream.run_plan, VideoCluster.run_plan, run_mapPlan, ClockDomain.run_plan,
    Plan.run]

/-- All that is lost of a body is what its texts lose. -/
theorem exact_plan (kind : Kind) :
    (plan kind).Exact (kind.textOffsets.map (· - headWidth)) := by
  cases kind with
  | configuration => exact Summary.exact_plan.map _
  | audioUnit => exact AudioUnit.exact_plan.map _
  | videoUnit => exact (Plan.Exact.ofLayout VideoUnit.exact_layout).map _
  | streamInput => exact Stream.exact_plan.map _
  | streamOutput => exact Stream.exact_plan.map _
  | jackInput => exact (Plan.Exact.ofLayout Jack.exact_layout).map _
  | jackOutput => exact (Plan.Exact.ofLayout Jack.exact_layout).map _
  | avbInterface => exact (Plan.Exact.ofLayout AvbInterface.exact_layout).map _
  | clockSource => exact (Plan.Exact.ofLayout ClockSource.exact_layout).map _
  | locale => exact (Plan.Exact.ofLayout Locale.exact_layout).map _
  | strings => exact (Plan.Exact.ofLayout Strings.exact_layout).map _
  | streamPortInput => exact (Plan.Exact.ofLayout StreamPort.exact_layout).map _
  | streamPortOutput => exact (Plan.Exact.ofLayout StreamPort.exact_layout).map _
  | audioCluster => exact (Plan.Exact.ofLayout AudioCluster.exact_layout).map _
  | videoCluster => exact VideoCluster.exact_plan.map _
  | audioMap => exact (exact_mapPlan AudioMapping.exact_layout).map _
  | videoMap => exact (exact_mapPlan VideoMapping.exact_layout).map _
  | clockDomain => exact ClockDomain.exact_plan.map _
  | _ => exact .refuse _

/-- A body is written as the parts are that it was read from. -/
theorem writesAs_plan (kind : Kind) : (plan kind).WritesAs write := by
  cases kind with
  | configuration => exact Summary.writesAs_plan.map fun _ => rfl
  | audioUnit => exact AudioUnit.writesAs_plan.map fun _ => rfl
  | videoUnit => exact (Plan.WritesAs.ofLayout VideoUnit.layout).map fun _ => rfl
  | streamInput => exact Stream.writesAs_plan.map fun _ => rfl
  | streamOutput => exact Stream.writesAs_plan.map fun _ => rfl
  | jackInput => exact (Plan.WritesAs.ofLayout Jack.layout).map fun _ => rfl
  | jackOutput => exact (Plan.WritesAs.ofLayout Jack.layout).map fun _ => rfl
  | avbInterface => exact (Plan.WritesAs.ofLayout AvbInterface.layout).map fun _ => rfl
  | clockSource => exact (Plan.WritesAs.ofLayout ClockSource.layout).map fun _ => rfl
  | locale => exact (Plan.WritesAs.ofLayout Locale.layout).map fun _ => rfl
  | strings => exact (Plan.WritesAs.ofLayout Strings.layout).map fun _ => rfl
  | streamPortInput => exact (Plan.WritesAs.ofLayout StreamPort.layout).map fun _ => rfl
  | streamPortOutput => exact (Plan.WritesAs.ofLayout StreamPort.layout).map fun _ => rfl
  | audioCluster => exact (Plan.WritesAs.ofLayout AudioCluster.layout).map fun _ => rfl
  | videoCluster => exact VideoCluster.writesAs_plan.map fun _ => rfl
  | audioMap => exact writesAs_mapPlan.map fun _ => rfl
  | videoMap => exact writesAs_mapPlan.map fun _ => rfl
  | clockDomain => exact ClockDomain.writesAs_plan.map fun _ => rfl
  | _ =>
    intro bs b hrun
    cases hrun

/-- What is read as a body of a kind is of that kind. -/
theorem kind_of_parse {kind : Kind} {bs : Octets} {b : Body} (h : parse kind bs = .ok b) :
    b.kind = kind ∧ b.isKnown := by
  cases kind <;> first
    | obtain ⟨_, -, rfl⟩ := Plan.map_eq_ok.mp h; exact ⟨rfl, rfl⟩
    | cases h

end Body

end Descriptor

end AvbEntity

import AvbEntity.Enumeration.Responder
import AvbEntity.Proofs.Descriptor.Codec
import AvbEntity.Proofs.Enumeration.Codec
import AvbEntity.Proofs.Model.Built

/-!
# What a controller finds

A controller reads the descriptors of an entity one by one: the ENTITY, which says how many
configurations there are, then each CONFIGURATION, which lists the kinds of its descriptors with
their numbers, then the descriptors under the indices below these numbers. Of a model that was built
from a tree it reads the whole tree in this way, and there is nothing else to read.

## Main definitions

* `Model.Answers`: how a read command is answered
* `Model.Succeeds`, `Model.Reads`, `Model.Refuses`: what the answer can be
* `Model.Enumerated`: what a controller reads, and that there is nothing else

## Main results

* `Model.answers_unique`: there is one answer
* `Model.enumerated_of_build`: a controller reads the tree that the model was built from
-/

namespace AvbEntity

open Enumeration

namespace Model

/-! ## Answers to read commands -/

/-- A read command is answered under the status and with the payload, whatever was answered before,
to the controller that sent it and under its sequence number. -/
def Answers (m : Model) (t : ReadDescriptor) (status : Status) (payload : Octets) : Prop :=
  ∀ (r : Responder) (controller : Eui64) (sequenceId : UInt16), ∃ response,
    r.handle m (ModelHeader.command m.entityId controller sequenceId .readDescriptor
        (ReadDescriptor.body.write t)) =
      .ok ({ count := r.count + 1 }, some response) ∧
    ModelHeader.decode response = .ok {
      common := {
        messageType := .response .aem
        status := status.code
        controlDataLength := .ofNat (12 + payload.length)
        targetEntityId := m.entityId
        controllerEntityId := controller
        sequenceId }
      commandType := .readDescriptor } ∧
    response.drop ModelHeader.length = payload

/-- The command is carried out. -/
def Succeeds (m : Model) (t : ReadDescriptor) : Prop :=
  ∃ payload, m.Answers t .success payload

/-- The command is carried out: a configuration and the octets of a descriptor. -/
def Serves (m : Model) (t : ReadDescriptor) (configuration : UInt16) (d : Descriptor) : Prop :=
  m.Answers t .success
    (Layout.word16.write configuration ++ (Layout.reserved 2).write () ++ d.encode)

/-- The descriptor that is read from the answer. -/
def Reads (m : Model) (t : ReadDescriptor) (configuration : UInt16) (d : Descriptor) : Prop :=
  ∃ served, m.Serves t configuration served ∧ Descriptor.parse served.encode = .ok d

/-- The command is not carried out, and its target is repeated. -/
def Refuses (m : Model) (t : ReadDescriptor) (status : Status) : Prop :=
  m.Answers t status (ReadDescriptor.body.write t)

variable {m : Model} {t : ReadDescriptor} {status : Status}

/-- There is one answer. -/
theorem answers_unique {status' : Status} {payload payload' : Octets}
    (h : m.Answers t status payload) (h' : m.Answers t status' payload') :
    status = status' ∧ payload = payload' := by
  obtain ⟨response, hhandle, hdecode, hdrop⟩ := h {} .zero 0
  obtain ⟨response', hhandle', hdecode', hdrop'⟩ := h' {} .zero 0
  obtain rfl : response = response' := by
    simpa using hhandle.symm.trans hhandle'
  refine ⟨?_, hdrop.symm.trans hdrop'⟩
  have hheader := Except.ok.inj (hdecode.symm.trans hdecode')
  cases status
  cases status'
  exact congrArg (fun h : ModelHeader => Status.mk h.common.status) hheader

theorem Refuses.not_succeeds (h : m.Refuses t status) (hstatus : status ≠ .success) :
    ¬ m.Succeeds t :=
  fun ⟨_, hsuccess⟩ => hstatus (answers_unique h hsuccess).1

end Model

namespace Enumeration

/-- A read command as it is received. -/
def ModelHeader.read (m : Model) (t : ReadDescriptor) (controller : Eui64) (sequenceId : UInt16) :
    ModelHeader where
  common := {
    messageType := .command .aem
    controlDataLength := ModelHeader.controlDataLength (ReadDescriptor.body.write t)
    targetEntityId := m.entityId
    controllerEntityId := controller
    sequenceId }
  commandType := .readDescriptor

/-- A read command is received, and answered. -/
theorem Responder.handle_read (r : Responder) (m : Model) (t : ReadDescriptor)
    (controller : Eui64) (sequenceId : UInt16) :
    r.handle m (ModelHeader.command m.entityId controller sequenceId .readDescriptor
        (ReadDescriptor.body.write t)) =
      .ok ({ count := r.count + 1 },
        some (readDescriptor m (.read m t controller sequenceId) t)) := by
  have hlength : (ModelHeader.controlDataLength (ReadDescriptor.body.write t)).toNat < 2048 :=
    ModelHeader.controlDataLength_lt (by rw [ReadDescriptor.length_write_body]; omega)
  have hstatus : (0 : UInt8).toNat < 32 := by decide
  -- the octets are read three times: for the headers, and for the target behind them
  have hrequest : ModelHeader.decode (ModelHeader.command m.entityId controller sequenceId
      .readDescriptor (ReadDescriptor.body.write t)) = .ok (.read m t controller sequenceId) :=
    ModelHeader.decode_write hstatus hlength (by decide) _
  have hheader : Header.decode (ModelHeader.command m.entityId controller sequenceId
      .readDescriptor (ReadDescriptor.body.write t)) =
      .ok (ModelHeader.read m t controller sequenceId).common :=
    Header.decode_encode hstatus hlength _
  have htarget : ReadDescriptor.decode (ModelHeader.command m.entityId controller sequenceId
      .readDescriptor (ReadDescriptor.body.write t)) = .ok t :=
    ReadDescriptor.decode_write ..
  have hanswer : answer m (ModelHeader.command m.entityId controller sequenceId .readDescriptor
      (ReadDescriptor.body.write t)) =
      .ok (some (readDescriptor m (.read m t controller sequenceId) t)) := by
    have hmine : ((ModelHeader.read m t controller sequenceId).common.targetEntityId !=
        m.entityId) = false := bne_self_eq_false _
    rw [answer, hheader, bind_ok, hmine, hrequest, bind_ok, htarget]
    rfl
  rw [handle, hanswer]
  rfl

end Enumeration

/-- A descriptor that keeps within its limits is served in one PDU. -/
theorem Descriptor.Fits.length_served {d : Descriptor} (h : d.Fits) (configuration : UInt16) :
    (Layout.word16.write configuration ++ (Layout.reserved 2).write () ++ d.encode).length ≤
      512 := by
  have hlength := h.length
  rw [maxLength] at hlength
  rw [List.length_append, List.length_append, Layout.length_write, Layout.length_write]
  show 2 + 2 + d.encode.length ≤ 512
  omega

namespace Model

variable {m : Model} {t : ReadDescriptor} {k : Kind}

/-- What the responder makes of a read command is how the command is answered. -/
theorem answers_of_respond {status : Status} {payload : Octets}
    (hstatus : status.code.toNat < 32) (hlength : payload.length ≤ 512)
    (h : ∀ request, Responder.readDescriptor m request t = request.respond status payload) :
    m.Answers t status payload := by
  have hcode : CommandType.readDescriptor.code.toNat < 0x8000 := by decide
  intro r controller sequenceId
  refine ⟨_, r.handle_read m t controller sequenceId, ?_, ?_⟩
  · rw [h]
    exact ModelHeader.decode_write hstatus (ModelHeader.controlDataLength_lt hlength) hcode _
  · rw [h]
    exact ModelHeader.drop_length ..

theorem refuses_of_respond {status : Status} (hstatus : status.code.toNat < 32)
    (h : ∀ request, Responder.readDescriptor m request t =
      request.respond status (ReadDescriptor.body.write t)) : m.Refuses t status :=
  answers_of_respond hstatus (by rw [ReadDescriptor.length_write_body]; omega) h

/-! ## The ways in which a read command can end -/

/-- No kind has the type code. -/
theorem refuses_of_ofCode? (h : Kind.ofCode? t.descriptorType = none) :
    m.Refuses t .noSuchDescriptor := by
  refine refuses_of_respond (by decide) fun request => ?_
  rw [Responder.readDescriptor, h]

/-- There is no such descriptor. -/
theorem refuses_of_find? (hk : Kind.ofCode? t.descriptorType = some k)
    (h : m.find? t.configurationIndex k t.descriptorIndex = none) :
    m.Refuses t .noSuchDescriptor := by
  refine refuses_of_respond (by decide) fun request => ?_
  simp only [Responder.readDescriptor, hk, h]

/-- There is a descriptor, but it has no layout. -/
theorem refuses_of_not_isKnown (hk : Kind.ofCode? t.descriptorType = some k) {d : Descriptor}
    (h : m.find? t.configurationIndex k t.descriptorIndex = some d) (hd : d.isKnown = false) :
    m.Refuses t .notSupported := by
  refine refuses_of_respond (by decide) fun request => ?_
  simp only [Responder.readDescriptor, hk, h, Descriptor.isEmpty_encode, hd, Bool.not_false,
    if_true]

/-- There is a descriptor that can be served. -/
theorem serves_of_find? (hk : Kind.ofCode? t.descriptorType = some k) {d : Descriptor}
    (h : m.find? t.configurationIndex k t.descriptorIndex = some d) (hd : d.isKnown = true)
    (hfits : d.Fits) : m.Serves t (Responder.answerConfiguration k t) d := by
  refine answers_of_respond (by decide) (hfits.length_served _) fun request => ?_
  simp only [Responder.readDescriptor, hk, h, Descriptor.isEmpty_encode, hd, Bool.not_true,
    Bool.false_eq_true, if_false]

/-- What is served is read as its normal form. -/
theorem reads_of_serves {configuration : UInt16} {d : Descriptor}
    (h : m.Serves t configuration d) (hd : d.isKnown = true) (hfits : d.Fits) :
    m.Reads t configuration d.normal := by
  refine ⟨d, h, ?_⟩
  have hparse := Descriptor.parse_encode_append hd hfits []
  rwa [List.append_nil] at hparse

/-! ## The whole tree -/

/-- What a controller reads of an entity that was built from a tree: the ENTITY `e`, the
CONFIGURATIONs with the bodies that `summary` has, and the descriptors that these list; and there is
nothing else that it can read. -/
structure Enumerated (tree : Tree) (m : Model) (e : Descriptor.Entity)
    (summary : UInt16 → Descriptor.Summary) : Prop where
  /-- The ENTITY has the index zero, in every configuration. -/
  entity : ∀ c i, m.Succeeds ⟨c, Kind.entity.code, i⟩ ↔ i = 0
  readsEntity : ∀ c, m.Reads ⟨c, Kind.entity.code, 0⟩ 0 (.entity e)
  /-- It says how many configurations the tree has. -/
  count : e.configurationsCount.toNat = tree.configurations.length
  /-- There is a CONFIGURATION for each of them, in every configuration. -/
  configuration : ∀ c i, m.Succeeds ⟨c, Kind.configuration.code, i⟩ ↔ i < e.configurationsCount
  readsConfiguration : ∀ c i, i < e.configurationsCount →
    m.Reads ⟨c, Kind.configuration.code, i⟩ 0 (.numbered i (.configuration (summary i)))
  /-- Of a kind that is listed there are as many descriptors as the list says. -/
  listed : ∀ c n, c < e.configurationsCount → n ∈ (summary c).descriptorCounts →
    ∀ i, m.Succeeds ⟨c, n.descriptorType, i⟩ ↔ i < n.count
  /-- They are those of the kind in the order of the model, and read under their kind and index. -/
  servesListed : ∀ c n i, c < e.configurationsCount → n ∈ (summary c).descriptorCounts →
    i < n.count → ∃ kind configuration d d',
      kind.code = n.descriptorType ∧ m.configuration? c = some configuration ∧
      (configuration.descriptors.filter (·.kind == kind))[i.toNat]? = some d ∧
      m.Serves ⟨c, n.descriptorType, i⟩ c d ∧
      Descriptor.parse d.encode = .ok d' ∧ d'.kind = kind ∧ d'.index = i
  /-- Of another kind nothing is served: there is a descriptor of the tree without a layout, or
  none. -/
  unlisted : ∀ (c : UInt16) node k i, tree.configurations[c.toNat]? = some node →
    k ≠ Kind.entity.code → k ≠ Kind.configuration.code →
    (∀ n ∈ (summary c).descriptorCounts, n.descriptorType ≠ k) →
    m.Refuses ⟨c, k, i⟩
      (if i.toNat < node.descriptors.countP (·.kind.code == k) then .notSupported
      else .noSuchDescriptor)
  /-- Nothing is found outside the configurations. -/
  outside : ∀ c k i, e.configurationsCount ≤ c → k ≠ Kind.entity.code →
    k ≠ Kind.configuration.code → m.Refuses ⟨c, k, i⟩ .noSuchDescriptor

/-- A command succeeds exactly where it is not refused. -/
theorem succeeds_iff {t : ReadDescriptor} {p : Prop} (hp : p → m.Succeeds t)
    (hnot : ¬ p → m.Refuses t .noSuchDescriptor) : m.Succeeds t ↔ p :=
  ⟨fun h => by_contra fun hn => (hnot hn).not_succeeds (by decide) h, hp⟩

/-! ## What is found in a model that was built -/

/-- A descriptor of a configuration is looked up there. -/
theorem find?_of_ne (hentity : k ≠ .entity) (hconfiguration : k ≠ .configuration) (c i : UInt16) :
    m.find? c k i = (m.configuration? c).bind fun configuration =>
      configuration.descriptors.find? fun d => d.kind == k && d.index == i := by
  unfold find?
  split
  next => exact absurd rfl hentity
  next => exact absurd rfl hconfiguration
  next => rfl

/-- The body of the CONFIGURATION at a position, as it is read. -/
def summary (m : Model) (position : UInt16) : Descriptor.Summary :=
  ((m.configuration? position).map fun c =>
    { c.summary with objectName := Utf8.beforeNul c.summary.objectName }).getD {}

theorem summary_of_configuration? {i : UInt16} {configuration : Configuration}
    (hi : m.configuration? i = some configuration) : m.summary i =
      { configuration.summary with
        objectName := Utf8.beforeNul configuration.summary.objectName } := by
  rw [summary, hi]
  rfl

namespace Built

variable {tree : Tree} {mac : Mac} (h : m.Built tree mac)
include h

theorem lt_iff {i : UInt16} :
    i < m.entity.configurationsCount ↔ i.toNat < tree.configurations.length := by
  rw [UInt16.lt_iff_toNat_lt, h.count]

theorem exists_of_lt {i : UInt16} (hi : i < m.entity.configurationsCount) :
    ∃ node c, tree.configurations[i.toNat]? = some node ∧ m.configuration? i = some c ∧
      c.Built mac i node := by
  have hnode := List.getElem?_eq_getElem (h.lt_iff.mp hi)
  obtain ⟨c, hc, hbuilt⟩ := h.configuration? i _ hnode
  exact ⟨_, c, hnode, hc, hbuilt⟩

theorem serves_entity (c : UInt16) : m.Serves ⟨c, Kind.entity.code, 0⟩ 0 (.entity m.entity) := by
  have hfind : m.find? c .entity 0 = some (.entity m.entity) := by rw [find?, if_pos rfl]
  exact serves_of_find? (t := ⟨c, Kind.entity.code, 0⟩) (Kind.ofCode?_code .entity) hfind rfl
    h.entity

theorem succeeds_entity (c i : UInt16) : m.Succeeds ⟨c, Kind.entity.code, i⟩ ↔ i = 0 := by
  refine succeeds_iff (fun hi => hi ▸ ⟨_, h.serves_entity c⟩) fun hi => ?_
  exact refuses_of_find? (Kind.ofCode?_code .entity) (if_neg hi)

/-- A CONFIGURATION is served in every configuration. -/
theorem serves_configuration (c : UInt16) {i : UInt16} {configuration : Configuration}
    (hi : m.configuration? i = some configuration) :
    m.Serves ⟨c, Kind.configuration.code, i⟩ 0
      (.numbered i (.configuration configuration.summary)) := by
  obtain ⟨node, hbuilt⟩ := h.exists_built hi
  exact serves_of_find? (t := ⟨c, Kind.configuration.code, i⟩)
    (Kind.ofCode?_code .configuration) (h.find?_configuration hi c) rfl hbuilt.summary

theorem succeeds_configuration (c i : UInt16) :
    m.Succeeds ⟨c, Kind.configuration.code, i⟩ ↔ i < m.entity.configurationsCount := by
  refine succeeds_iff (fun hi => ?_) fun hi => ?_
  · obtain ⟨node, configuration, -, hconfiguration, -⟩ := h.exists_of_lt hi
    exact ⟨_, h.serves_configuration c hconfiguration⟩
  · refine refuses_of_find? (Kind.ofCode?_code .configuration) ?_
    rw [find?, h.none i (Nat.le_of_not_lt fun hlt => hi (h.lt_iff.mpr hlt))]
    rfl

end Built

section

variable {mac : Mac} {c : UInt16} {node : Tree.Configuration} {configuration : Configuration}
  (hc : m.configuration? c = some configuration) (hbuilt : configuration.Built mac c node)
include hc hbuilt

theorem find?_of_built (hentity : k ≠ .entity) (hconfiguration : k ≠ .configuration)
    (i : UInt16) : m.find? c k i = (configuration.ofKind k)[i.toNat]? := by
  rw [find?_of_ne hentity hconfiguration, hc, Option.bind_some, hbuilt.find?_eq_getElem? hentity]

/-- A descriptor of a kind with a layout is served under its index. -/
theorem serves_of_getElem? (hentity : k ≠ .entity) (hconfiguration : k ≠ .configuration)
    (hlayout : k.hasLayout) {i : UInt16} {d : Descriptor}
    (hd : (configuration.ofKind k)[i.toNat]? = some d) : m.Serves ⟨c, k.code, i⟩ c d := by
  obtain ⟨-, -, hknown, hfits⟩ := hbuilt.of_getElem? hentity hd
  have hserves := serves_of_find? (t := ⟨c, k.code, i⟩) (Kind.ofCode?_code k)
    ((find?_of_built hc hbuilt hentity hconfiguration i).trans hd) (hknown.trans hlayout) hfits
  have hanswer : Responder.answerConfiguration k ⟨c, k.code, i⟩ = c := by
    unfold Responder.answerConfiguration
    split
    next => exact absurd rfl hentity
    next => exact absurd rfl hconfiguration
    next => rfl
  rwa [hanswer] at hserves

/-- Under a larger index there is none. -/
theorem refuses_of_length_le (hentity : k ≠ .entity) (hconfiguration : k ≠ .configuration)
    {i : UInt16} (hi : (configuration.ofKind k).length ≤ i.toNat) :
    m.Refuses ⟨c, k.code, i⟩ .noSuchDescriptor := by
  refine refuses_of_find? (Kind.ofCode?_code k) ?_
  rw [find?_of_built hc hbuilt hentity hconfiguration]
  exact List.getElem?_eq_none hi

/-- A descriptor of a kind without a layout is found, but not served. -/
theorem refuses_of_lt (hentity : k ≠ .entity) (hconfiguration : k ≠ .configuration)
    (hlayout : k.hasLayout = false) {i : UInt16}
    (hi : i.toNat < (configuration.ofKind k).length) :
    m.Refuses ⟨c, k.code, i⟩ .notSupported := by
  have hd := List.getElem?_eq_getElem hi
  obtain ⟨-, -, hknown, -⟩ := hbuilt.of_getElem? hentity hd
  exact refuses_of_not_isKnown (Kind.ofCode?_code k)
    ((find?_of_built hc hbuilt hentity hconfiguration i).trans hd) (hknown.trans hlayout)

/-- What is answered about a kind that is not listed. -/
theorem refuses_of_unlisted {k : UInt16} (hentity : k ≠ Kind.entity.code)
    (hconfiguration : k ≠ Kind.configuration.code)
    (hlist : ∀ n ∈ configuration.summary.descriptorCounts, n.descriptorType ≠ k) (i : UInt16) :
    m.Refuses ⟨c, k, i⟩
      (if i.toNat < node.descriptors.countP (·.kind.code == k) then .notSupported
      else .noSuchDescriptor) := by
  cases hk : Kind.ofCode? k with
  | none =>
    have hnone : node.descriptors.countP (·.kind.code == k) = 0 := by
      refine List.countP_eq_zero.mpr fun d _ hd => ?_
      rw [Kind.ofCode?_eq_some.mpr (beq_iff_eq.mp hd)] at hk
      cases hk
    rw [hnone, if_neg (Nat.not_lt_zero _)]
    exact refuses_of_ofCode? hk
  | some kind =>
    obtain rfl := Kind.ofCode?_eq_some.mp hk
    have hentity' : kind ≠ .entity := fun h => hentity (h ▸ rfl)
    have hconfiguration' : kind ≠ .configuration := fun h => hconfiguration (h ▸ rfl)
    have hcode : (fun d : Descriptor => d.kind.code == kind.code) = fun d => d.kind == kind := by
      funext d
      rw [Bool.eq_iff_iff, beq_iff_eq, beq_iff_eq, Kind.code_inj]
    rw [hcode, ← hbuilt.length_ofKind]
    cases hlayout : kind.hasLayout with
    | true =>
      have hnone : (configuration.ofKind kind).length = 0 :=
        (hbuilt.length_ofKind kind).trans (hbuilt.countP_eq_zero hlayout hlist)
      rw [hnone, if_neg (Nat.not_lt_zero _)]
      refine refuses_of_length_le hc hbuilt hentity' hconfiguration' ?_
      rw [hnone]
      exact Nat.zero_le _
    | false =>
      split
      next hi => exact refuses_of_lt hc hbuilt hentity' hconfiguration' hlayout hi
      next hi =>
        exact refuses_of_length_le hc hbuilt hentity' hconfiguration' (Nat.le_of_not_lt hi)

end

/-- Outside the configurations there is nothing. -/
theorem refuses_of_none {c : UInt16} (hc : m.configuration? c = none) {k : UInt16}
    (hentity : k ≠ Kind.entity.code) (hconfiguration : k ≠ Kind.configuration.code) (i : UInt16) :
    m.Refuses ⟨c, k, i⟩ .noSuchDescriptor := by
  cases hk : Kind.ofCode? k with
  | none => exact refuses_of_ofCode? hk
  | some kind =>
    obtain rfl := Kind.ofCode?_eq_some.mp hk
    refine refuses_of_find? hk ?_
    rw [find?_of_ne (fun h => hentity (h ▸ rfl)) (fun h => hconfiguration (h ▸ rfl)), hc,
      Option.bind_none]

/-- What is listed is a kind with a layout, with the number of its descriptors. -/
theorem Built.exists_of_listed {tree : Tree} {mac : Mac} (h : m.Built tree mac) {c : UInt16}
    (hc : c < m.entity.configurationsCount) {n : Descriptor.DescriptorCount}
    (hn : n ∈ (m.summary c).descriptorCounts) :
    ∃ (kind : Kind) (node : Tree.Configuration) (configuration : Configuration),
      kind.code = n.descriptorType ∧ m.configuration? c = some configuration ∧
      configuration.Built mac c node ∧ kind.hasLayout ∧ kind ≠ .entity ∧ kind ≠ .configuration ∧
      ∀ i, i < n.count ↔ i.toNat < (configuration.ofKind kind).length := by
  obtain ⟨node, configuration, -, hconfiguration, hbuilt⟩ := h.exists_of_lt hc
  rw [summary_of_configuration? hconfiguration] at hn
  obtain ⟨kind, hkind, hlayout, hentity, hnot, hcount⟩ := hbuilt.exists_of_mem hn
  refine ⟨kind, node, configuration, hkind, hconfiguration, hbuilt, hlayout, hentity, hnot, ?_⟩
  intro i
  rw [UInt16.lt_iff_toNat_lt, hcount, hbuilt.length_ofKind]

/-- **Enumeration finds exactly the tree**: from an entity that was built from a tree a controller
reads the ENTITY, the CONFIGURATIONs and all descriptors that they list, and nothing else. -/
theorem enumerated_of_build {tree : Tree} {mac : Mac} (h : build tree mac = .ok m) :
    ∃ e summary, m.Enumerated tree e summary := by
  have hbuilt := built_of_build h
  refine ⟨m.entity.mapTexts Utf8.beforeNul, m.summary, ?_⟩
  constructor
  case entity => exact hbuilt.succeeds_entity
  case readsEntity =>
    intro c
    exact reads_of_serves (hbuilt.serves_entity c) rfl hbuilt.entity
  case count => exact hbuilt.count
  case configuration => exact hbuilt.succeeds_configuration
  case readsConfiguration =>
    intro c i hi
    obtain ⟨node, configuration, -, hconfiguration, hc⟩ := hbuilt.exists_of_lt hi
    rw [summary_of_configuration? hconfiguration]
    exact reads_of_serves (hbuilt.serves_configuration c hconfiguration) rfl hc.summary
  case listed =>
    intro c n hlt hn i
    obtain ⟨k, node, configuration, hk, hconfiguration, hc, hlayout, hentity, hnot, hcount⟩ :=
      hbuilt.exists_of_listed hlt hn
    rw [← hk, hcount]
    apply succeeds_iff
    · intro hi
      exact ⟨_, serves_of_getElem? hconfiguration hc hentity hnot hlayout
        (List.getElem?_eq_getElem hi)⟩
    · intro hi
      exact refuses_of_length_le hconfiguration hc hentity hnot (Nat.le_of_not_lt hi)
  case servesListed =>
    intro c n i hlt hn hi
    obtain ⟨k, node, configuration, hk, hconfiguration, hc, hlayout, hentity, hnot, hcount⟩ :=
      hbuilt.exists_of_listed hlt hn
    have hd := List.getElem?_eq_getElem ((hcount i).mp hi)
    obtain ⟨hkind, hindex, hknown, hfits⟩ := hc.of_getElem? hentity hd
    have hserves := serves_of_getElem? hconfiguration hc hentity hnot hlayout hd
    have hparse := Descriptor.parse_encode_append (hknown.trans hlayout) hfits []
    rw [List.append_nil] at hparse
    refine ⟨k, configuration, _, _, hk, hconfiguration, hd, hk ▸ hserves, hparse, ?_, ?_⟩
    · rw [Descriptor.kind_normal, hkind]
    · rw [Descriptor.index_normal, hindex]
  case unlisted =>
    intro c node k i hnode hentity hnot hlist
    obtain ⟨configuration, hconfiguration, hc⟩ := hbuilt.configuration? c node hnode
    rw [summary_of_configuration? hconfiguration] at hlist
    exact refuses_of_unlisted hconfiguration hc hentity hnot hlist i
  case outside =>
    intro c k i hle hentity hnot
    rw [UInt16.le_iff_toNat_le] at hle
    exact refuses_of_none (hbuilt.none c (hbuilt.count ▸ hle)) hentity hnot i

end Model

/-- Of two configurations one has stream inputs with a control between them, and one nothing. -/
def Tree.console : Tree where
  configurations := [
    { descriptors := [.numbered 0 (.stream .input {}), .numbered 0 (.unsupported .control),
        .numbered 0 (.stream .input {})] },
    {}]

/-- This tree has a model, and a controller reads it. -/
theorem Model.enumerated_console :
    ∃ m e summary, build .console .duplex = .ok m ∧ m.Enumerated .console e summary := by
  have hsome : (build .console .duplex).toOption.isSome := by decide +kernel
  obtain ⟨m, hm⟩ := Option.isSome_iff_exists.mp hsome
  have hbuild : build .console .duplex = .ok m := toOption_eq_some.mp hm
  obtain ⟨e, summary, henumerated⟩ := enumerated_of_build hbuild
  exact ⟨m, e, summary, hbuild, henumerated⟩

end AvbEntity

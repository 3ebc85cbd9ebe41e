import AvbEntity.Proofs.Descriptor.Plan
import AvbEntity.Proofs.Model.Numbering

/-!
# Descriptors are self-delimiting

Nothing around a descriptor says where it ends: its type code, its numbers of entries and the
layouts do. What is read of octets is told by as many of them as the descriptor is written in, none
of these may be missing, and they are the octets that the descriptor is written in, up to faults of
texts and the index of an ENTITY, which is not kept.

## Main definitions

* `Descriptor.plan`: the plan of a descriptor, whose type code says which body is next
* `Descriptor.parseWithin`: the descriptor, read from windows
* `Descriptor.Delimited`: the descriptor ends within the octets that it was read from

## Main results

* `Descriptor.length_encode_of_run`, `Descriptor.encode_of_run`: a descriptor is written in as many
  octets as it was read from, and in these octets
* `Descriptor.delimited_of_parse`: every descriptor that is read is delimited
-/

namespace AvbEntity.Descriptor

/-- What follows the type code and the index. -/
def planBehind (code index : UInt16) : Plan Descriptor :=
  match Kind.ofCode? code with
  | none => .refuse (.unknownDescriptorType code)
  | some .entity => (Plan.ofLayout Entity.layout).map .entity
  | some kind => (Body.plan kind).map (.numbered index)

/-- The plan of a descriptor. -/
def plan : Plan Descriptor :=
  .part head fun h => planBehind h.1 h.2

theorem planBehind_code {kind : Kind} (hkind : kind ≠ .entity) (index : UInt16) :
    planBehind kind.code index = (Body.plan kind).map (.numbered index) := by
  simp only [planBehind, Kind.ofCode?_code]

/-- Reading a descriptor is carrying out its plan. -/
theorem run_plan (bs : Octets) : plan.run bs = parse bs := by
  rw [plan, Plan.run, parse]
  refine congrArg (head.parse bs >>= ·) (funext fun values => ?_)
  obtain ⟨code, index⟩ := values
  show (planBehind code index).run (bs.drop headWidth) = _
  cases hkind : Kind.ofCode? code with
  | none =>
    simp only [planBehind, hkind]
    rfl
  | some kind =>
    by_cases hentity : kind = .entity
    · simp only [planBehind, hkind, hentity, Plan.run_map, Plan.run_ofLayout]
    · simp only [planBehind, hkind, Plan.run_map, Body.run_plan]

/-- An ENTITY is read behind its type code, or the body of another kind behind that of the kind. -/
theorem run_plan_eq_ok {bs : Octets} {d : Descriptor} (h : plan.run bs = .ok d) :
    ∃ index, (∃ e, head.read bs = (Kind.entity.code, index) ∧ d = .entity e ∧
        (Plan.ofLayout Entity.layout).run (bs.drop headWidth) = .ok e) ∨
      ∃ kind b, kind ≠ .entity ∧ head.read bs = (kind.code, index) ∧ d = .numbered index b ∧
        (Body.plan kind).run (bs.drop headWidth) = .ok b := by
  obtain ⟨-, hbehind⟩ := Plan.run_part_eq_ok.mp h
  change (planBehind _ _).run (bs.drop headWidth) = _ at hbehind
  generalize head.read bs = values at hbehind ⊢
  obtain ⟨code, index⟩ := values
  refine ⟨index, ?_⟩
  cases hkind : Kind.ofCode? code with
  | none =>
    simp only [planBehind, hkind] at hbehind
    cases hbehind
  | some kind =>
    obtain rfl := Kind.ofCode?_eq_some.mp hkind
    by_cases hentity : kind = .entity
    · subst hentity
      obtain ⟨e, he, rfl⟩ := Plan.map_eq_ok.mp ((Plan.run_map ..).symm.trans hbehind)
      exact .inl ⟨e, rfl, rfl, he⟩
    · rw [planBehind_code hentity, Plan.run_map] at hbehind
      obtain ⟨b, hb, rfl⟩ := Plan.map_eq_ok.mp hbehind
      exact .inr ⟨kind, b, hentity, rfl, rfl, hb⟩

/-- A descriptor is written as its parts are, but for the index of an ENTITY. -/
theorem encode_of_run {bs : Octets} {d : Descriptor} (h : plan.run bs = .ok d) :
    ∃ rest, plan.rewrite bs = head.write (head.read bs) ++ rest ∧
      d.encode = head.write ((head.read bs).1, d.index) ++ rest ∧
      ((d.kind = .entity → (head.read bs).2 = 0) → d.index = (head.read bs).2) := by
  have hrewrite : plan.rewrite bs = head.write (head.read bs) ++
      (planBehind (head.read bs).1 (head.read bs).2).rewrite (bs.drop headWidth) := rfl
  refine ⟨_, hrewrite, ?_⟩
  obtain ⟨index, ⟨e, hhead, rfl, hrun⟩ | ⟨kind, b, hkind, hhead, rfl, hrun⟩⟩ := run_plan_eq_ok h
  case inl =>
    have hbody : Entity.layout.write e = _ := Plan.WritesAs.ofLayout Entity.layout _ e hrun
    rw [hhead]
    refine ⟨congrArg (head.write (Kind.entity.code, 0) ++ ·) ?_, fun h => (h rfl).symm⟩
    exact hbody.trans (Plan.rewrite_map ..).symm
  case inr =>
    have hbody : b.write = _ := Body.writesAs_plan kind _ b hrun
    obtain ⟨hb, hknown⟩ := Body.kind_of_parse ((Body.run_plan ..).symm.trans hrun)
    rw [hhead, planBehind_code hkind, Plan.rewrite_map, encode_numbered hknown, hb, hbody]
    exact ⟨rfl, fun _ => rfl⟩

theorem length_encode_of_run {bs : Octets} {d : Descriptor} (h : plan.run bs = .ok d) :
    d.encode.length = plan.taken bs := by
  obtain ⟨rest, hrewrite, hencode, -⟩ := encode_of_run h
  rw [← Plan.length_rewrite, hrewrite, hencode, List.length_append, List.length_append,
    head.length_write, head.length_write]

/-- No layout of a descriptor looks behind its width. -/
theorem confined_plan : plan.Confined := by
  refine ⟨Layout.confined_word16.pair Layout.confined_word16, fun (code, index) => ?_⟩
  show (planBehind code index).Confined
  unfold planBehind
  split
  · exact trivial
  · exact ((Plan.Exact.ofLayout Entity.exact_layout).map _).confined
  · exact ((Body.exact_plan _).map _).confined

/-- Every part of a descriptor is written back, if its text fields hold texts. -/
theorem restores_plan {bs : Octets} {d : Descriptor} (h : plan.run bs = .ok d)
    (htexts : ∀ start ∈ d.kind.textOffsets,
      Layout.IsText ((bs.drop start).take Layout.textWidth)) : plan.Restores bs := by
  have hhead : head.Restores bs :=
    .pair (Layout.restores_word16 _) (Layout.restores_word16 _)
  refine ⟨hhead, ?_⟩
  show (planBehind (head.read bs).1 (head.read bs).2).Restores (bs.drop headWidth)
  have hbody : ∀ texts : List Nat, (∀ start ∈ texts, headWidth + start ∈ d.kind.textOffsets) →
      ∀ start ∈ texts,
        Layout.IsText (((bs.drop headWidth).drop start).take Layout.textWidth) := by
    intro texts hsub start hstart
    rw [List.drop_drop]
    exact htexts _ (hsub start hstart)
  obtain ⟨index, ⟨e, hread, rfl, hrun⟩ | ⟨kind, b, hkind, hread, rfl, hrun⟩⟩ := run_plan_eq_ok h
  case inl =>
    have hplaces : ∀ start ∈ [44, 112, 176, 240], headWidth + start ∈ Kind.entity.textOffsets := by
      decide
    rw [hread]
    exact ((Plan.Exact.ofLayout Entity.exact_layout).map _).restores _ (hbody _ hplaces)
  case inr =>
    obtain ⟨hb, -⟩ := Body.kind_of_parse ((Body.run_plan ..).symm.trans hrun)
    rw [hread, planBehind_code hkind]
    refine ((Body.exact_plan kind).map _).restores _ (hbody _ ?_)
    show ∀ start ∈ _, headWidth + start ∈ b.kind.textOffsets
    rw [hb]
    cases kind <;> decide

/-- The descriptor at the start of octets, read from windows. -/
def parseWithin (bs : Octets) : Except ReadFault Descriptor :=
  plan.runWithin bs 0

/-- The descriptor ends within the octets that it was read from, in as many of them as it is written
in. -/
structure Delimited (bs : Octets) (d : Descriptor) : Prop where
  /-- The octets of the descriptor were received. -/
  length_le : d.encode.length ≤ bs.length
  /-- What follows them does not matter. -/
  agrees : ∀ bs' : Octets, bs'.take d.encode.length = bs.take d.encode.length →
    parse bs' = .ok d
  /-- None of them may be missing at the end. -/
  truncated : ∀ k < d.encode.length,
    ∃ needed available, parse (bs.take k) = .error (.truncated needed available)
  /-- They are the octets that the descriptor is written in, if each text field holds a text and
  zeros behind it, and the index of an ENTITY is zero. -/
  encode_eq : (∀ start ∈ d.kind.textOffsets,
      Layout.IsText ((bs.drop start).take Layout.textWidth)) →
    (d.kind = .entity → (head.read bs).2 = 0) → d.encode = bs.take d.encode.length

/-- **Descriptors are self-delimiting, and writing undoes reading**: what is read of octets, however
many there are, is read without looking at one that is not there, and a descriptor that is read is
told by as many of them as it is written in. -/
theorem delimited_of_parse (bs : Octets) :
    parseWithin bs = (parse bs).mapError .decode ∧ ∀ d, parse bs = .ok d → Delimited bs d := by
  refine ⟨?_, fun d hparse => ?_⟩
  · rw [parseWithin, Plan.runWithin_eq confined_plan (Nat.zero_le _), List.drop_zero, run_plan]
  · have hrun : plan.run bs = .ok d := (run_plan bs).trans hparse
    have hlength := length_encode_of_run hrun
    constructor
    case length_le =>
      rw [hlength]
      exact Plan.taken_le hrun
    case agrees =>
      intro bs' hagree
      rw [hlength] at hagree
      exact (run_plan bs').symm.trans (Plan.run_congr confined_plan hrun hagree)
    case truncated =>
      intro k hk
      obtain ⟨needed, available, herror⟩ := Plan.run_take_of_lt confined_plan hrun (hlength ▸ hk)
      exact ⟨needed, available, (run_plan _).symm.trans herror⟩
    case encode_eq =>
      intro htexts hindex
      obtain ⟨rest, hrewrite, hencode, hkept⟩ := encode_of_run hrun
      rw [hlength, ← Plan.rewrite_eq_take hrun (restores_plan hrun htexts), hrewrite, hencode,
        hkept hindex]

/-- A clock domain with two sources. -/
def wordClock : Descriptor :=
  .numbered 1 (.clockDomain { objectName := "Wörter", clockSources := [0, 3] })

/-- Octets behind the clock domain are not looked at, and its own are those that were received. -/
theorem delimited_wordClock :
    parse (wordClock.encode ++ [7, 7]) = .ok wordClock ∧
      Delimited (wordClock.encode ++ [7, 7]) wordClock ∧
      wordClock.encode = (wordClock.encode ++ [7, 7]).take wordClock.encode.length := by
  have hparse : parse (wordClock.encode ++ [7, 7]) = .ok wordClock :=
    toOption_eq_some.mp (by decide +kernel)
  have hdelimited := (delimited_of_parse (wordClock.encode ++ [7, 7])).2 _ hparse
  have htext : ∀ start ∈ wordClock.kind.textOffsets,
      Layout.IsText (((wordClock.encode ++ [7, 7]).drop start).take Layout.textWidth) := by
    refine List.forall_mem_singleton.mpr ⟨⟨"Wörter", ?_⟩, ?_⟩
    · decide +kernel
    · decide +kernel
  exact ⟨hparse, hdelimited, hdelimited.encode_eq htext fun h => Kind.noConfusion h⟩

end AvbEntity.Descriptor

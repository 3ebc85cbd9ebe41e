import AvbEntity.Proofs.Discovery.Announcement
import Mathlib.Data.List.Induction

/-!
# Runs of an advertiser

An advertiser hears PDUs, is told things by the application, and ticks. Only its ticks send
anything, and what they send is told by three flags. A run is any sequence of these events; its log
says what each of them sent. Between the ticks the advertiser knows when the entity was last
announced, and for which grandmaster.

## Main definitions

* `Advertiser.Event`, `Advertiser.step`, `Advertiser.after`: runs of the advertiser
* `Advertiser.log`, `Advertiser.sends`: what the events of a run sent
* `Advertiser.announcements`: the announcements and leavings among it, each with its moment
* `Advertiser.Announced`: what the advertiser knows of them

## Main results

* `Advertiser.tick_eq`: a tick does what its flags say
* `Advertiser.isPrompted_iff`: the causes to announce the entity that a tick finds
* `Advertiser.announced_after`: what is known of the announcements of a run is right
-/

namespace AvbEntity.Discovery

open Descriptor (Entity)

/-- The PDU says of an entity that it is there, or that it leaves. -/
def Pdu.isAnnouncement (p : Pdu) : Bool :=
  p.messageType != .discover

namespace Advertiser

/-! ## One tick -/

section

variable (a : Advertiser) (e : Entity) (now : Time) (link : Option Bool)

/-- A tick finds a cause to announce the entity. -/
def isPrompted : Bool :=
  (a.observe now link).needsAdvertise

/-- What a tick says of the leaving of the entity: it may have announced the entity just before. -/
def departing : Pdu :=
  { a.announcement e .departing with
    availableIndex := if a.isPrompted now link then a.availableIndex + 1 else a.availableIndex }

/-- A tick sends at most one PDU of each type, and then nothing is left to be sent. -/
theorem tick_eq :
    a.tick e now link =
      ({ a with
          availableIndex :=
            if a.needsDepart then 0
            else if a.isPrompted now link then a.availableIndex + 1
            else a.availableIndex
          lastAdvertised :=
            if a.isPrompted now link || a.needsDepart then some now else a.lastAdvertised
          needsAdvertise := false
          needsDiscover := false
          needsDepart := false
          linkUp := link.getD a.linkUp
          advertisedGrandmasterId := a.grandmasterId },
        (if a.isPrompted now link then [a.announcement e .available] else []) ++
          (if a.needsDiscover then [.discover] else []) ++
          (if a.needsDepart then [a.departing e now link] else [])) := by
  have hobserve : a.observe now link =
      { a with
        linkUp := link.getD a.linkUp
        advertisedGrandmasterId := a.grandmasterId
        needsAdvertise := a.isPrompted now link } := rfl
  unfold tick advertise solicit depart departing
  rw [hobserve]
  -- each part of a tick looks at one flag, which the parts before it leave
  generalize a.isPrompted now link = prompted
  obtain ⟨_, _, _, _, discover, depart, _, _, _⟩ := a
  cases prompted <;> cases discover <;> cases depart <;> rfl

theorem isPrompted_iff :
    a.isPrompted now link = true ↔
      a.needsAdvertise = true ∨
        (∃ last, a.lastAdvertised = some last ∧ last + a.readvertiseInterval < now) ∨
        (∃ up, link = some up ∧ up ≠ a.linkUp) ∨ a.grandmasterId ≠ a.advertisedGrandmasterId := by
  have hdue : a.isDue now = true ↔
      ∃ last, a.lastAdvertised = some last ∧ last + a.readvertiseInterval < now := by
    unfold isDue
    split
    next last hlast =>
      rw [hlast, decide_eq_true_iff, Nat.lt_sub_iff_add_lt']
      simp only [Option.some.injEq, exists_eq_left']
    next hlast => simp [hlast]
  have hlink : (link.getD a.linkUp != a.linkUp) = true ↔ ∃ up, link = some up ∧ up ≠ a.linkUp := by
    cases link <;> simp
  rw [isPrompted, observe, Bool.or_eq_true, Bool.or_eq_true, Bool.or_eq_true, hdue, hlink,
    bne_iff_ne, or_assoc, or_assoc]

/-- Without a cause the last announcement has not lapsed, and what was last seen has not changed. -/
theorem isPrompted_eq_false :
    a.isPrompted now link = false ↔
      a.needsAdvertise = false ∧
        (∀ last, a.lastAdvertised = some last → now ≤ last + a.readvertiseInterval) ∧
        (∀ up, link = some up → up = a.linkUp) ∧ a.grandmasterId = a.advertisedGrandmasterId := by
  rw [← Bool.not_eq_true, isPrompted_iff]
  simp only [not_or, not_exists, not_and, not_not, Bool.not_eq_true, Nat.not_lt]

/-- The flag for which a tick sends a PDU of a type. -/
def flag : MessageType → Bool
  | .available => a.isPrompted now link
  | .discover => a.needsDiscover
  | .departing => a.needsDepart

theorem mem_tick_iff {p : Pdu} :
    p ∈ (a.tick e now link).2 ↔
      (a.isPrompted now link = true ∧ p = a.announcement e .available) ∨
        (a.needsDiscover = true ∧ p = .discover) ∨
        (a.needsDepart = true ∧ p = a.departing e now link) := by
  rw [tick_eq]
  simp only [List.mem_append, List.mem_ite_nil_right, List.mem_singleton, or_assoc]

theorem exists_mem_tick {t : MessageType} :
    (∃ p ∈ (a.tick e now link).2, p.messageType = t) ↔ a.flag now link t = true := by
  simp only [mem_tick_iff]
  constructor
  · rintro ⟨p, ⟨h, rfl⟩ | ⟨h, rfl⟩ | ⟨h, rfl⟩, rfl⟩ <;> exact h
  · intro h
    cases t with
    | available => exact ⟨_, .inl ⟨h, rfl⟩, rfl⟩
    | discover => exact ⟨_, .inr (.inl ⟨h, rfl⟩), rfl⟩
    | departing => exact ⟨_, .inr (.inr ⟨h, rfl⟩), rfl⟩

/-- At most one PDU of each type, and the announcement first and the leaving last. -/
theorem sublist_tick :
    ((a.tick e now link).2.map (·.messageType)).Sublist [.available, .discover, .departing] := by
  have hpart : ∀ (b : Bool) (p : Pdu),
      ((if b then [p] else []).map (·.messageType)).Sublist [p.messageType] := by
    intro b p
    cases b
    · exact List.nil_sublist _
    · exact List.Sublist.refl _
  rw [tick_eq, List.map_append, List.map_append]
  exact ((hpart _ _).append (hpart _ .discover)).append (hpart _ _)

end

/-! ## Runs -/

/-- What happens to an advertiser. -/
inductive Event where
  | hear (p : Pdu)
  | setGrandmaster (id : Eui64)
  | requestDiscover
  | requestDepart
  | tick (now : Time) (link : Option Bool)
  deriving DecidableEq

/-- The event is a tick. -/
def Event.isTick : Event → Bool
  | .tick .. => true
  | _ => false

/-- An event is a tick, or it comes between two ticks. -/
@[elab_as_elim]
theorem Event.tickCases {motive : Event → Prop} (s : Event)
    (tick : ∀ now link, motive (.tick now link)) (other : ∀ s, s.isTick = false → motive s) :
    motive s := by
  cases hs : s.isTick with
  | false => exact other s hs
  | true =>
    cases s with
    | tick now link => exact tick now link
    | _ => cases hs

/-- The advertiser of an entity after an event, and the PDUs to send in turn. -/
def step (a : Advertiser) (e : Entity) : Event → Advertiser × List Pdu
  | .hear p => (a.hear e.entityId p, [])
  | .setGrandmaster id => (a.setGrandmaster id, [])
  | .requestDiscover => (a.requestDiscover, [])
  | .requestDepart => (a.requestDepart, [])
  | .tick now link => a.tick e now link

/-- The advertiser after a run. -/
def after (a : Advertiser) (e : Entity) (run : List Event) : Advertiser :=
  run.foldl (fun a s => (a.step e s).1) a

/-- The events of a run, each with the PDUs that it sends, whether or not they reach the network. -/
def log (a : Advertiser) (e : Entity) : List Event → List (Event × List Pdu)
  | [] => []
  | s :: run => (s, (a.step e s).2) :: (a.step e s).1.log e run

/-- The PDUs that a run sends, in order. -/
def sends (a : Advertiser) (e : Entity) (run : List Event) : List Pdu :=
  (a.log e run).flatMap (·.2)

/-- The announcements and leavings that an event sent, with their moment. -/
def announcementsOf : Event × List Pdu → List (Time × Pdu)
  | (.tick now _, sent) => (sent.filter (·.isAnnouncement)).map (now, ·)
  | _ => []

/-- The announcements and leavings that a run sends, in order, each with its moment. -/
def announcements (a : Advertiser) (e : Entity) (run : List Event) : List (Time × Pdu) :=
  (a.log e run).flatMap announcementsOf

section

variable (a : Advertiser) (e : Entity) (run : List Event) (s : Event)

theorem after_cons : a.after e (s :: run) = (a.step e s).1.after e run :=
  rfl

theorem after_append (more : List Event) :
    a.after e (run ++ more) = (a.after e run).after e more :=
  List.foldl_append

theorem log_append (more : List Event) :
    a.log e (run ++ more) = a.log e run ++ (a.after e run).log e more := by
  induction run generalizing a with
  | nil => rfl
  | cons s run ih => exact congrArg (_ :: ·) (ih _)

theorem sends_append (more : List Event) :
    a.sends e (run ++ more) = a.sends e run ++ (a.after e run).sends e more := by
  rw [sends, log_append, List.flatMap_append]
  rfl

theorem sends_singleton : a.sends e [s] = (a.step e s).2 :=
  List.append_nil _

theorem after_concat : a.after e (run ++ [s]) = ((a.after e run).step e s).1 :=
  after_append ..

theorem sends_concat : a.sends e (run ++ [s]) = a.sends e run ++ ((a.after e run).step e s).2 := by
  rw [sends_append, sends_singleton]

theorem announcements_concat :
    a.announcements e (run ++ [s]) =
      a.announcements e run ++ announcementsOf (s, ((a.after e run).step e s).2) := by
  simp [announcements, log_append, log]

theorem announcementsOf_tick (now : Time) (link : Option Bool) :
    announcementsOf (.tick now link, (a.tick e now link).2) =
      (if a.isPrompted now link then [(now, a.announcement e .available)] else []) ++
        (if a.needsDepart then [(now, a.departing e now link)] else []) := by
  rw [tick_eq, announcementsOf]
  cases a.isPrompted now link <;> cases a.needsDiscover <;> cases a.needsDepart <;> rfl

/-- The announcements are told apart from the rest of what is sent by their type. -/
theorem map_announcements :
    (a.announcements e run).map (·.2) = (a.sends e run).filter (·.isAnnouncement) := by
  induction run using List.reverseRecOn with
  | nil => rfl
  | append_singleton run s ih =>
    rw [announcements_concat, sends_concat, List.map_append, List.filter_append, ih]
    cases s with
    | tick now link => simp [announcementsOf, step, Function.comp_def]
    | _ => rfl

end

/-! ## One event -/

/-- The event gives the advertiser a grandmaster. -/
def Event.grandmaster? : Event → Option Eui64
  | .setGrandmaster id => some id
  | _ => none

/-- The event asks the entity `own`, or every entity, to announce itself. -/
def Event.asks (own : Eui64) : Event → Bool
  | .hear p => p.messageType == .discover && (p.entityId.isZero || p.entityId == own)
  | _ => false

section

variable {a : Advertiser} {e : Entity} {s : Event}

theorem hear_eq (a : Advertiser) (own : Eui64) (p : Pdu) :
    a.hear own p = { a with needsAdvertise := a.needsAdvertise || (Event.hear p).asks own } := by
  have hasks : (Event.hear p).asks own =
      (p.messageType == .discover && (p.entityId.isZero || p.entityId == own)) := rfl
  rw [hear, hasks]
  cases p.messageType with
  | discover => cases p.entityId.isZero || p.entityId == own <;> simp
  | available =>
    rw [show (MessageType.available == .discover) = false from rfl, Bool.false_and, Bool.or_false]
  | departing =>
    rw [show (MessageType.departing == .discover) = false from rfl, Bool.false_and, Bool.or_false]

/-- Between two ticks flags are set and nothing is sent. -/
theorem step_eq (hs : s.isTick = false) :
    a.step e s =
      ({ a with
          grandmasterId := s.grandmaster?.getD a.grandmasterId
          needsAdvertise := a.needsAdvertise || s.asks e.entityId
          needsDiscover := a.needsDiscover || s == .requestDiscover
          needsDepart := a.needsDepart || s == .requestDepart }, []) := by
  cases s with
  | tick now link => cases hs
  | hear p =>
    have hdiscover : (Event.hear p == .requestDiscover) = false := rfl
    have hdepart : (Event.hear p == .requestDepart) = false := rfl
    simp [step, hear_eq, Event.grandmaster?, hdiscover, hdepart]
  | setGrandmaster id =>
    have hdiscover : (Event.setGrandmaster id == .requestDiscover) = false := rfl
    have hdepart : (Event.setGrandmaster id == .requestDepart) = false := rfl
    simp [step, setGrandmaster, Event.asks, Event.grandmaster?, hdiscover, hdepart]
  | requestDiscover => simp [step, requestDiscover, Event.asks, Event.grandmaster?]
  | requestDepart => simp [step, requestDepart, Event.asks, Event.grandmaster?]

theorem announcementsOf_eq_nil (hs : s.isTick = false) (sent : List Pdu) :
    announcementsOf (s, sent) = [] := by
  cases s with
  | tick now link => cases hs
  | _ => rfl

theorem validTime_step (a : Advertiser) (e : Entity) (s : Event) :
    (a.step e s).1.validTime = a.validTime := by
  cases s using Event.tickCases with
  | tick now link => rw [step, tick_eq]
  | other s hs => rw [step_eq hs]

theorem validTime_after (a : Advertiser) (e : Entity) (run : List Event) :
    (a.after e run).validTime = a.validTime := by
  induction run generalizing a with
  | nil => rfl
  | cons s run ih => rw [after_cons, ih, validTime_step]

theorem readvertiseInterval_after (validTime : UInt8) (linkUp : Bool) (e : Entity)
    (run : List Event) :
    ((start validTime linkUp).after e run).readvertiseInterval =
      max (validTime.toNat * 1000 / 2) 1000 := by
  rw [readvertiseInterval, validTime_after]
  rfl

end

/-! ## What was last announced -/

end Advertiser

/-- The PDU says of the entity what its ENTITY descriptor says. -/
structure Pdu.Describes (p : Pdu) (e : Entity) : Prop where
  entityId : p.entityId = e.entityId
  entityModelId : p.entityModelId = e.entityModelId
  entityCapabilities : p.entityCapabilities = e.entityCapabilities
  talkerStreamSources : p.talkerStreamSources = e.talkerStreamSources
  talkerCapabilities : p.talkerCapabilities = e.talkerCapabilities
  listenerStreamSinks : p.listenerStreamSinks = e.listenerStreamSinks
  listenerCapabilities : p.listenerCapabilities = e.listenerCapabilities
  controllerCapabilities : p.controllerCapabilities = e.controllerCapabilities
  associationId : p.associationId = e.associationId

namespace Advertiser

theorem describes_announcement (a : Advertiser) (e : Entity) (t : MessageType) :
    (a.announcement e t).Describes e :=
  ⟨rfl, rfl, rfl, rfl, rfl, rfl, rfl, rfl, rfl⟩

theorem describes_departing (a : Advertiser) (e : Entity) (now : Time) (link : Option Bool) :
    (a.departing e now link).Describes e :=
  ⟨rfl, rfl, rfl, rfl, rfl, rfl, rfl, rfl, rfl⟩

/-- What the advertiser of an entity knows of its announcements until now. -/
structure Announced (a : Advertiser) (e : Entity) (announced : List (Time × Pdu)) : Prop where
  /-- It knows when the last of them was. -/
  lastAdvertised : a.lastAdvertised = announced.getLast?.map (·.1)
  /-- The last of them was for the grandmaster that it takes for announced. -/
  last : ∀ x ∈ announced.getLast?,
    x.2.Describes e ∧ x.2.gptpGrandmasterId = a.advertisedGrandmasterId
  /-- Until there is one it has to make one. -/
  pending : announced = [] → a.needsAdvertise = true

namespace Announced

variable {a : Advertiser} {e : Entity} {announced : List (Time × Pdu)}

/-- It is known of an announcement that was just made. -/
theorem concat {now : Time} {p : Pdu} (hlast : a.lastAdvertised = some now) (hp : p.Describes e)
    (hgrandmaster : p.gptpGrandmasterId = a.advertisedGrandmasterId) :
    a.Announced e (announced ++ [(now, p)]) where
  lastAdvertised := by rw [hlast, List.getLast?_concat, Option.map_some]
  last x hx := by
    rw [List.getLast?_concat] at hx
    obtain rfl := Option.some.inj hx
    exact ⟨hp, hgrandmaster⟩
  pending hnil := absurd hnil (List.concat_ne_nil _ _)

theorem tick (h : a.Announced e announced) (now : Time) (link : Option Bool) :
    (a.tick e now link).1.Announced e
      (announced ++ announcementsOf (.tick now link, (a.tick e now link).2)) := by
  rw [announcementsOf_tick, tick_eq]
  cases hdepart : a.needsDepart with
  | true =>
    rw [Bool.or_true, if_pos rfl, if_pos rfl, if_pos rfl, ← List.append_assoc]
    exact concat rfl (describes_departing ..) rfl
  | false =>
    cases hprompted : a.isPrompted now link with
    | true => exact concat rfl (describes_announcement ..) rfl
    | false =>
      obtain ⟨hneeds, -, -, hgrandmaster⟩ := (isPrompted_eq_false a now link).mp hprompted
      simp only [Bool.or_false, Bool.false_eq_true, if_false, List.append_nil]
      exact ⟨h.lastAdvertised,
        fun x hx => ⟨(h.last x hx).1, (h.last x hx).2.trans hgrandmaster.symm⟩,
        fun hnil => absurd (h.pending hnil) (Bool.eq_false_iff.mp hneeds)⟩

theorem step (h : a.Announced e announced) (s : Event) :
    (a.step e s).1.Announced e (announced ++ announcementsOf (s, (a.step e s).2)) := by
  cases s using Event.tickCases with
  | tick now link => exact h.tick now link
  | other s hs =>
    rw [announcementsOf_eq_nil hs, List.append_nil, step_eq hs]
    exact ⟨h.lastAdvertised, h.last, fun hnil => Bool.or_eq_true_iff.mpr (.inl (h.pending hnil))⟩

end Announced

/-- What an advertiser knows of its announcements is right after every run from the start. -/
theorem announced_after (validTime : UInt8) (linkUp : Bool) (e : Entity) (run : List Event) :
    ((start validTime linkUp).after e run).Announced e
      ((start validTime linkUp).announcements e run) := by
  induction run using List.reverseRecOn with
  | nil => exact ⟨rfl, fun _ h => absurd h (by simp [announcements, log]), fun _ => rfl⟩
  | append_singleton run s ih =>
    rw [after_concat, announcements_concat]
    exact ih.step s

/-- The grandmaster of a run is the last that was given, or none. -/
def grandmasterOf (run : List Event) : Eui64 :=
  (run.filterMap (·.grandmaster?)).getLast?.getD .zero

theorem grandmasterOf_concat (run : List Event) (s : Event) :
    grandmasterOf (run ++ [s]) = s.grandmaster?.getD (grandmasterOf run) := by
  rw [grandmasterOf, List.filterMap_append]
  cases hs : s.grandmaster? with
  | none => simp [hs, grandmasterOf]
  | some id => simp [hs]

theorem grandmasterId_after (validTime : UInt8) (linkUp : Bool) (e : Entity) (run : List Event) :
    ((start validTime linkUp).after e run).grandmasterId = grandmasterOf run := by
  induction run using List.reverseRecOn with
  | nil => rfl
  | append_singleton run s ih =>
    rw [after_concat, grandmasterOf_concat, ← ih]
    cases s using Event.tickCases with
    | tick now link =>
      rw [step, tick_eq]
      rfl
    | other s hs => rw [step_eq hs]

end Advertiser

end AvbEntity.Discovery

import AvbEntity.Descriptor.Entity
import AvbEntity.Discovery.Pdu
import AvbEntity.Time

/-!
# The advertiser

The advertiser announces the entity: at first, when half of the announced lifetime has passed,
when asked, and when the link or the clock grandmaster has changed. Every cause sets a flag; the
flags are looked at, and cleared, at the next tick.

## Main definitions

* `Advertiser`, `Advertiser.start`: the state of the advertiser
* `Advertiser.hear`: a discovery PDU received
* `Advertiser.observe`: the causes that a tick finds
* `Advertiser.tick`: the PDUs of a tick
-/

namespace AvbEntity.Discovery

open Descriptor (Entity)

/-- The state of the advertiser. -/
structure Advertiser where
  /-- The announced lifetime in seconds. -/
  validTime : UInt8
  /-- The number of announcements since the start or the last leave. -/
  availableIndex : UInt32 := 0
  /-- When the entity was last announced, or its leaving. -/
  lastAdvertised : Option Time := none
  needsAdvertise : Bool := true
  needsDiscover : Bool := false
  needsDepart : Bool := false
  /-- The link state that was last seen. -/
  linkUp : Bool
  grandmasterId : Eui64 := .zero
  advertisedGrandmasterId : Eui64 := .zero
  deriving DecidableEq

namespace Advertiser

/-- The advertiser before its first tick. -/
def start (validTime : UInt8) (linkUp : Bool) : Advertiser :=
  { validTime, linkUp }

/-- Half the announced lifetime, but at least one second. -/
def readvertiseInterval (a : Advertiser) : Time :=
  max (a.validTime.toNat * 1000 / 2) 1000

/-- The advertiser that knows of a grandmaster. -/
def setGrandmaster (a : Advertiser) (id : Eui64) : Advertiser :=
  { a with grandmasterId := id }

/-- The advertiser that will ask for other entities. -/
def requestDiscover (a : Advertiser) : Advertiser :=
  { a with needsDiscover := true }

/-- The advertiser that will announce the leaving. -/
def requestDepart (a : Advertiser) : Advertiser :=
  { a with needsDepart := true }

/-- The advertiser after a PDU was received: a discover for every entity or for this one is a cause
to announce. -/
def hear (a : Advertiser) (ownId : Eui64) (p : Pdu) : Advertiser :=
  match p.messageType with
  | .discover =>
    if p.entityId.isZero || p.entityId == ownId then { a with needsAdvertise := true } else a
  | .available | .departing => a

/-- The last announcement is too long ago. -/
def isDue (a : Advertiser) (now : Time) : Bool :=
  match a.lastAdvertised with
  | some last => a.readvertiseInterval < now - last
  | none => false

/-- The causes to announce that a tick finds: time, link and grandmaster. -/
def observe (a : Advertiser) (now : Time) (link : Option Bool) : Advertiser :=
  let linkUp := link.getD a.linkUp
  { a with
    linkUp
    advertisedGrandmasterId := a.grandmasterId
    needsAdvertise := a.needsAdvertise || a.isDue now || linkUp != a.linkUp ||
      a.grandmasterId != a.advertisedGrandmasterId }

/-- What is said of the entity. -/
def announcement (a : Advertiser) (e : Entity) (messageType : MessageType) : Pdu :=
  { messageType
    validTime := a.validTime
    entityId := e.entityId
    entityModelId := e.entityModelId
    entityCapabilities := e.entityCapabilities
    talkerStreamSources := e.talkerStreamSources
    talkerCapabilities := e.talkerCapabilities
    listenerStreamSinks := e.listenerStreamSinks
    listenerCapabilities := e.listenerCapabilities
    controllerCapabilities := e.controllerCapabilities
    availableIndex := a.availableIndex
    gptpGrandmasterId := a.grandmasterId
    associationId := e.associationId }

/-- The entity announced, if it has to be. -/
def advertise (a : Advertiser) (e : Entity) (now : Time) : Advertiser × List Pdu :=
  if a.needsAdvertise then
    ({ a with
        availableIndex := a.availableIndex + 1
        lastAdvertised := some now
        needsAdvertise := false },
      [a.announcement e .available])
  else (a, [])

/-- Other entities asked for, if they have to be. -/
def solicit (a : Advertiser) : Advertiser × List Pdu :=
  if a.needsDiscover then ({ a with needsDiscover := false }, [.discover]) else (a, [])

/-- The leaving announced, if it has to be. -/
def depart (a : Advertiser) (e : Entity) (now : Time) : Advertiser × List Pdu :=
  if a.needsDepart then
    ({ a with
        availableIndex := 0
        lastAdvertised := some now
        needsAdvertise := false
        needsDepart := false },
      [a.announcement e .departing])
  else (a, [])

/-- One tick, with the state of the link unless it is unknown: the advertiser after it, and the
PDUs to send, whether or not they will reach the network. -/
def tick (a : Advertiser) (e : Entity) (now : Time) (link : Option Bool) :
    Advertiser × List Pdu :=
  let (a, available) := (a.observe now link).advertise e now
  let (a, discover) := a.solicit
  let (a, departing) := a.depart e now
  (a, available ++ discover ++ departing)

end Advertiser

end AvbEntity.Discovery

import AvbEntity.Connection.Relay
import AvbEntity.Connection.Talker

/-!
# Connection management of an entity

A PDU goes to the talker or to the relay of the listener: by its type, if the entity has that role
and the PDU names it.

## Main definitions

* `Role`, `Role.parse`: the sides of a connection that an entity serves
* `Manager`, `Manager.handle`, `Manager.tick`: both sides together
-/

namespace AvbEntity

/-- The sides of a connection that an entity serves. -/
inductive Role where
  | talker
  | listener
  | both
  deriving DecidableEq

namespace Role

/-- The entity serves as a talker. -/
def isTalker : Role → Bool
  | .talker | .both => true
  | .listener => false

/-- The entity serves as a listener. -/
def isListener : Role → Bool
  | .listener | .both => true
  | .talker => false

/-- The name of the role. -/
def name : Role → String
  | .talker => "talker"
  | .listener => "listener"
  | .both => "both"

/-- The role of a name. -/
def ofName? (s : String) : Option Role :=
  [talker, listener, both].find? (·.name == s)

/-- A text, without capital letters of ASCII, that names no role. -/
structure Unknown where
  name : String
  deriving DecidableEq

/-- The wording of the error. -/
def Unknown.message (e : Unknown) : String :=
  "unknown role '" ++ e.name ++ "'"

/-- The role that a text names, in any case of its letters. -/
def parse (s : String) : Except Unknown Role :=
  let lower := String.ofList (s.toList.map Char.toLower)
  match ofName? lower with
  | some role => .ok role
  | none => .error ⟨lower⟩

end Role

namespace Connection

/-- Connection management of an entity. -/
structure Manager where
  role : Role
  relay : Relay
  deriving DecidableEq

namespace Manager

/-- Nothing in flight. -/
def start (role : Role) (capacity : Nat) : Manager :=
  { role, relay := .start capacity }

/-- A PDU handled: the manager and the model after it, and the PDUs to send in turn. The first of
them is `accepted` by the network or not. -/
def handle (c : Manager) (m : Model) (p : Pdu) (now : Time) (accepted : Bool) :
    Manager × Model × List Pdu :=
  if p.messageType.isForTalker then
    if c.role.isTalker && p.talkerEntityId == m.entityId then (c, Talker.respond m p)
    else (c, m, [])
  else if p.messageType.isForListener then
    if c.role.isListener && p.listenerEntityId == m.entityId then
      let (relay, m, sent) := c.relay.handle m p now accepted
      ({ c with relay }, m, sent)
    else (c, m, [])
  else (c, m, [])

/-- The commands whose time has run out sent again or given up. -/
def tick (c : Manager) (now : Time) : Manager × List Pdu :=
  if c.role.isListener then
    let (relay, sent) := c.relay.tick now
    ({ c with relay }, sent)
  else (c, [])

end Manager

end Connection

end AvbEntity

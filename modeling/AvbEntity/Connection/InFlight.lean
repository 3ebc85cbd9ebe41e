import AvbEntity.Connection.Pdu

/-!
# Commands in flight

A command that was passed on to a talker occupies a slot until it is answered. The number of slots
is fixed, and a command stays in its slot.

## Main definitions

* `Entry`: a command in flight
* `InFlight`, `InFlight.empty`: the slots
* `InFlight.insert`, `InFlight.get?`, `InFlight.remove`, `InFlight.take?`: the operations on slots
* `InFlight.expired`: the slots whose time has run out
-/

namespace AvbEntity.Connection

/-- A command that waits for its answer. -/
structure Entry where
  /-- The command as it was sent to the talker. -/
  command : Pdu
  /-- The command was sent a second time. -/
  retried : Bool := false
  /-- The sequence number under which the controller sent the command. -/
  controllerSequenceId : UInt16
  deadline : Time
  deriving DecidableEq

namespace Entry

/-- The entry is for a command of the type and the sequence number. -/
def isFor (messageType : MessageType) (sequenceId : UInt16) (e : Entry) : Bool :=
  e.command.messageType == messageType && e.command.sequenceId == sequenceId

/-- The command sent a second time, with another deadline. -/
def retry (e : Entry) (deadline : Time) : Entry :=
  { e with retried := true, deadline }

end Entry

/-- A fixed number of slots, each free or with a command. -/
structure InFlight where
  slots : List (Option Entry)
  deriving DecidableEq

namespace InFlight

/-- Free slots. -/
def empty (capacity : Nat) : InFlight :=
  ⟨.replicate capacity none⟩

/-- The number of slots. -/
def capacity (t : InFlight) : Nat :=
  t.slots.length

/-- The number of commands in flight. -/
def size (t : InFlight) : Nat :=
  t.slots.countP (·.isSome)

/-- No command is in flight. -/
def isEmpty (t : InFlight) : Bool :=
  t.slots.all (·.isNone)

/-- No slot is free. -/
def isFull (t : InFlight) : Bool :=
  t.slots.all (·.isSome)

/-- The command in a slot. -/
def get? (t : InFlight) (slot : Nat) : Option Entry :=
  t.slots[slot]?.join

/-- The table with a command in the first free slot, and that slot; there is none when the table is
full. -/
def insert (t : InFlight) (e : Entry) : Option (InFlight × Nat) :=
  (t.slots.findIdx? (·.isNone)).map fun slot => (⟨t.slots.set slot (some e)⟩, slot)

/-- The table with a slot freed. -/
def remove (t : InFlight) (slot : Nat) : InFlight :=
  ⟨t.slots.set slot none⟩

/-- The first command of a type and a sequence number, and the table without it. -/
def take? (t : InFlight) (messageType : MessageType) (sequenceId : UInt16) :
    Option (Entry × InFlight) := do
  let slot ← t.slots.findIdx? (·.any (Entry.isFor messageType sequenceId))
  let e ← t.get? slot
  return (e, t.remove slot)

/-- The slots of the commands whose time has run out. -/
def expired (t : InFlight) (now : Time) : List Nat :=
  t.slots.zipIdx.filterMap fun (e?, slot) =>
    if e?.any (·.deadline ≤ now) then some slot else none

/-- The table with the command of a slot, if there is one, changed. -/
def modify (t : InFlight) (slot : Nat) (f : Entry → Entry) : InFlight :=
  ⟨t.slots.modify slot (·.map f)⟩

end InFlight

end AvbEntity.Connection

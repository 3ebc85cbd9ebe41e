import AvbEntity.Wire.Layout

/-!
# Ethernet frames

A frame is a header of two addresses and the type of what it carries, and a payload. On the wire
a frame that is too short is filled up with zeros, which the receiver sees as payload.

## Main definitions

* `Frame`, `Frame.parse`, `Frame.encode`: a frame and its octets
* `Frame.isControl`: the frame carries the control protocols
* `Outgoing`: a payload to be sent, and where
-/

namespace AvbEntity

/-- An Ethernet frame. -/
structure Frame where
  src : Mac
  dest : Mac
  ethertype : UInt16
  payload : Octets
  deriving DecidableEq

namespace Frame

/-- The Ethernet type of the control protocols. -/
def controlType : UInt16 :=
  0x22F0

/-- The length below which a frame is filled up. -/
def minLength : Nat :=
  60

/-- The header: destination, source, type. -/
def header : Layout (Mac × Mac × UInt16) :=
  Layout.mac.pair <| Layout.mac.pair Layout.word16

/-- The frame that octets hold; they may be too few for the header. -/
def parse (bs : Octets) : Option Frame :=
  if bs.length < header.width then none
  else
    let (dest, src, ethertype) := header.read bs
    some { src, dest, ethertype, payload := bs.drop header.width }

/-- The octets of a frame, filled up to the least length. -/
def encode (f : Frame) : Octets :=
  let bs := header.write (f.dest, f.src, f.ethertype) ++ f.payload
  bs ++ .replicate (minLength - bs.length) 0

/-- The frame carries the control protocols. -/
def isControl (f : Frame) : Bool :=
  f.ethertype == controlType

end Frame

/-- A control payload on its way out. -/
structure Outgoing where
  dest : Mac
  payload : Octets
  deriving DecidableEq

/-- The frame that carries the payload from an interface. -/
def Outgoing.frame (o : Outgoing) (src : Mac) : Frame :=
  { src, dest := o.dest, ethertype := Frame.controlType, payload := o.payload }

end AvbEntity

import AvbEntity.Ethernet.Link

/-!
# Cables

A cable joins an interface to a peer that stands for the rest of the network. Frames wait at each
end in the order in which they were sent. What waits for an end is still delivered after the other
end is gone.

## Main definitions

* `Cable`: the two queues and the state of the link
* `Cable.send`, `Cable.receive`: what the interface does
* `Cable.inject`, `Cable.next`, `Cable.drain`: what the peer does
-/

namespace AvbEntity

/-- A cable between an interface and a peer. -/
structure Cable where
  /-- The address of the interface. -/
  mac : Mac
  link : Link := {}
  /-- The frames on their way to the interface. -/
  inbound : List Frame := []
  /-- The frames on their way to the peer. -/
  outbound : List Frame := []
  interfaceGone : Bool := false
  peerGone : Bool := false

namespace Cable

/-- The frame that the interface makes of what it sends, passed to the peer. -/
def send (c : Cable) (dest : Mac) (ethertype : UInt16) (payload : Octets) :
    Cable × Except TransportError Nat :=
  let offered := { c with link := c.link.offer }
  if !c.link.accepts then (offered, .error (.sendFailed "link refused frame"))
  else if c.peerGone then (offered, .error .closed)
  else
    let frame : Frame := { src := c.mac, dest, ethertype, payload }
    ({ offered with outbound := c.outbound ++ [frame] }, .ok payload.length)

/-- The next frame for the interface, if one waits; without a peer none will come. -/
def receive (c : Cable) : Cable × Except TransportError (Option Frame) :=
  match c.inbound with
  | frame :: rest => ({ c with inbound := rest }, .ok (some frame))
  | [] => (c, if c.peerGone then .error .closed else .ok none)

/-- A frame sent to the interface; it is lost if the interface is gone. -/
def inject (c : Cable) (frame : Frame) : Cable :=
  if c.interfaceGone then c else { c with inbound := c.inbound ++ [frame] }

/-- The next frame for the peer, if one waits. -/
def next (c : Cable) : Cable × Option Frame :=
  match c.outbound with
  | frame :: rest => ({ c with outbound := rest }, some frame)
  | [] => (c, none)

/-- All frames that wait for the peer. -/
def drain (c : Cable) : Cable × List Frame :=
  ({ c with outbound := [] }, c.outbound)

end Cable

end AvbEntity

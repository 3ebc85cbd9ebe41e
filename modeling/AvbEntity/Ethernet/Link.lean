import AvbEntity.Ethernet.Frame

/-!
# Links

What an interface meets when it uses the network: whether the link is up, and which of the frames
offered to it are refused.

## Main definitions

* `TransportError`: why the network could not be used
* `Link`, `Link.accepts`, `Link.offer`: the state of a link, and one frame offered to it
* `Link.transmit`: the payloads that pass, of those offered in turn
-/

namespace AvbEntity

/-- Why the network could not be used. -/
inductive TransportError where
  | interfaceNotFound (name : String)
  | openFailed (reason : String)
  | sendFailed (reason : String)
  | receiveFailed (reason : String)
  | linkQueryFailed (reason : String)
  | frameTooLarge (length : Nat)
  | closed
  deriving DecidableEq

/-- The wording of the error. -/
def TransportError.message : TransportError → String
  | .interfaceNotFound name => "Interface not found: " ++ name
  | .openFailed reason => "Failed to open socket: " ++ reason
  | .sendFailed reason => "Send failed: " ++ reason
  | .receiveFailed reason => "Receive failed: " ++ reason
  | .linkQueryFailed reason => "Link state query failed: " ++ reason
  | .frameTooLarge length => "Frame too large: " ++ toString length ++ " bytes"
  | .closed => "Transport closed"

/-- The state of a link. -/
structure Link where
  /-- Whether the link is up; there is no answer while the query fails. -/
  up : Option Bool := some true
  /-- Every frame is refused. -/
  refusesAll : Bool := false
  /-- So many frames are refused next. -/
  refusesNext : Nat := 0
  deriving DecidableEq

namespace Link

/-- The next frame offered is not refused. -/
def accepts (l : Link) : Bool :=
  l.refusesNext == 0 && !l.refusesAll

/-- The link after a frame was offered to it. -/
def offer (l : Link) : Link :=
  { l with refusesNext := l.refusesNext - 1 }

/-- The link after payloads were offered to it in turn, and those of them that it accepted. -/
def transmit (l : Link) : List Outgoing → Link × List Outgoing
  | [] => (l, [])
  | o :: rest =>
    let (l', passed) := transmit l.offer rest
    (l', if l.accepts then o :: passed else passed)

end Link

end AvbEntity

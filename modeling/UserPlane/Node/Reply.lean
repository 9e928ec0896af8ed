/-
  UserPlane.Node.Reply
  ────────────────────
  **WHAT A NODE SENDS.**

  A handler answers with a `Reply`, which becomes a `Datagram` once it is on
  its way.  Whether a datagram gets out at all depends on where it is to go.
-/
import UserPlane.Message
import UserPlane.Node

namespace UserPlane

/-- An answer: the message, and for messages about sessions the number by
which the peer knows the session. -/
structure Reply where
  message : Message
  seid : Option UInt64
  deriving DecidableEq, Repr

namespace Reply

/-- An answer to a message between nodes. -/
def node (m : Message) : Reply := ⟨m, none⟩

/-- An answer to a message about a session. -/
def session (m : Message) (seid : UInt64) : Reply := ⟨m, some seid⟩

end Reply

/-- A message on its way, with the name it is counted under. -/
structure Outgoing where
  name : String
  octets : Octets
  deriving DecidableEq, Repr

/-- The answer in octets, under the sequence number of the request. -/
def Reply.outgoing (r : Reply) (sequence : UInt32) : Outgoing :=
  ⟨r.message.name, r.message.encode sequence r.seid⟩

/-- The addresses that datagrams get out to. -/
abbrev Link := SocketAddress → Bool

/-- A datagram that got out. -/
structure Datagram where
  destination : SocketAddress
  octets : Octets
  deriving DecidableEq, Repr

/-- Sends a message; it is counted if it gets out. -/
def sendTo (link : Link) (destination : SocketAddress) (o : Outgoing) :
    StateM Node (List Datagram) := do
  if link destination then
    modify fun n => { n with metrics := n.metrics.sent o.name }
    return [⟨destination, o.octets⟩]
  else return []

end UserPlane

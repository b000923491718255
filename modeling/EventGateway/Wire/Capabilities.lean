import EventGateway.EventKinds
/-!
# Capabilities

Families of events that a client may opt into.
-/
namespace EventGateway.Wire

structure Capabilities where
  bits : UInt32
deriving DecidableEq, Repr

namespace Capabilities

def typingEvents : Capabilities := ⟨1⟩

def presenceEvents : Capabilities := ⟨2⟩

def messageEdits : Capabilities := ⟨4⟩

def all : Capabilities := ⟨7⟩

/-- Unknown bits are dropped. -/
def ofBits (bits : UInt32) : Capabilities := ⟨bits &&& all.bits⟩

/-- What the client asked for and the server offers. -/
def negotiate (server : Capabilities) (asked : UInt32) : Capabilities := ⟨server.bits &&& (ofBits asked).bits⟩

def contains (a b : Capabilities) : Bool := a.bits &&& b.bits == b.bits

/-- Whether events of a kind may be sent to a client with these capabilities. -/
def allows (c : Capabilities) (kind : EventKinds) : Bool :=
  if kind.intersects .typing then c.contains typingEvents
  else if kind.intersects .presence then c.contains presenceEvents
  else if kind.intersects ⟨EventKinds.messageUpdate.bits ||| EventKinds.messageDelete.bits⟩ then
    c.contains messageEdits
  else true

end Capabilities
end EventGateway.Wire

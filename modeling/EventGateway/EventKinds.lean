/-!
# Kinds of events

A set of event kinds, as the bits that travel on the wire.  As a filter the empty set means every kind.
-/
namespace EventGateway

structure EventKinds where
  bits : UInt32
deriving DecidableEq, Repr

namespace EventKinds

def messageCreate : EventKinds := ⟨1⟩

def messageUpdate : EventKinds := ⟨2⟩

def messageDelete : EventKinds := ⟨4⟩

def typing : EventKinds := ⟨8⟩

def presence : EventKinds := ⟨16⟩

def messages : EventKinds := ⟨7⟩

def all : EventKinds := ⟨31⟩

/-- Unknown bits are ignored, and no known bit means all of them. -/
def ofFilterBits (bits : UInt32) : EventKinds :=
  if bits &&& all.bits == 0 then all else ⟨bits &&& all.bits⟩

def intersects (a b : EventKinds) : Bool := a.bits &&& b.bits != 0

/-- Whether a filter lets a kind of event through. -/
def admits (filter kind : EventKinds) : Bool := filter.intersects kind

end EventKinds
end EventGateway

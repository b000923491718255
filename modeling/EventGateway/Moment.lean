import EventGateway.Snowflake.Basic
/-!
# Readings of the clocks

Two clocks are read, both in milliseconds: one that only ever goes forward, for timeouts and windows, and the clock on
the wall, which may be set back, for timestamps and ids.
-/
namespace EventGateway

structure Moment where
  ticks : Nat
  unix : Int
deriving DecidableEq, Repr

namespace Moment

/-- Milliseconds since the epoch of the ids. -/
def age (m : Moment) : Int := m.unix - Snowflake.epoch

def timestamp (m : Moment) : Int64 := Int64.ofInt m.unix

def after (m : Moment) (ms : Nat) : Moment := ⟨m.ticks + ms, m.unix + ms⟩

end Moment
end EventGateway

import EventGateway.Snowflake.Basic
/-!
# Issuing ids

A generator remembers the millisecond and the sequence number of the id it issued last.  It follows the clock forward
and never back: in a millisecond already used it counts on, and when the sequence numbers of that millisecond are used
up it borrows the next one.  The clock reading is given with each call.
-/
namespace EventGateway

structure Generator where
  worker : UInt16
  time : Nat
  sequence : Nat
deriving DecidableEq, Repr

namespace Generator

structure InvalidWorker where
  worker : UInt16
deriving DecidableEq, Repr

def InvalidWorker.message (e : InvalidWorker) : String :=
  "worker id " ++ Text.ofNat e.worker.toNat ++ " exceeds maximum of " ++ Text.ofNat Snowflake.maxWorker

def new (worker : UInt16) : Except InvalidWorker Generator :=
  if worker.toNat ≤ Snowflake.maxWorker then .ok ⟨worker, 0, 0⟩ else .error ⟨worker⟩

/-- The moment that follows the last one at clock reading `now`, in milliseconds since the epoch. -/
def advance (now : Int) (g : Generator) : Generator :=
  if (g.time : Int) < now then { g with time := now.toNat, sequence := 0 }
  else if g.sequence + 1 < Snowflake.sequences then { g with sequence := g.sequence + 1 }
  else { g with time := g.time + 1, sequence := 0 }

/-- The id of the generator's moment. -/
def current (g : Generator) : Snowflake :=
  .ofNat ((g.time * Snowflake.workers + g.worker.toNat) * Snowflake.sequences + g.sequence)

def next (now : Int) (g : Generator) : Snowflake × Generator :=
  let g' := g.advance now
  (g'.current, g')

/-- One id for each clock reading. -/
def issue : List Int → Generator → List Snowflake × Generator
  | [], g => ([], g)
  | now :: rest, g =>
    let (id, g') := g.next now
    let (ids, g'') := issue rest g'
    (id :: ids, g'')

end Generator
end EventGateway

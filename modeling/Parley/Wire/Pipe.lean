import Parley.Wire.Freight

namespace Parley.Wire

structure Pipe where
  capacity : Nat
  held : Freight := []
  closed : Bool := false
  readerWaits : Bool := false
  writerWaits : Bool := false

namespace Pipe

def room (p : Pipe) : Nat := p.capacity - p.held.size

/-- One end has gone; what is held can still be read. -/
def close (p : Pipe) : Pipe :=
  { p with closed := true, readerWaits := false, writerWaits := false }

end Pipe

/-- What the other end of a stream may have been waiting for. -/
inductive PortWake
  | readable
  | writable
  deriving DecidableEq, Repr

structure Port where
  inbound : Pipe
  outbound : Pipe
  wakes : List PortWake := []

inductive Received
  | arrived (freight : Freight)
  | ended
  | blocked

/-- How far a piece of writing came; `blocked` carries what is left. -/
inductive Sent
  | complete
  | blocked (rest : Freight)
  | broken

namespace Port

def noteWake (wake : PortWake) (waits : Bool) (p : Port) : Port :=
  if waits then { p with wakes := p.wakes ++ [wake] } else p

def receive (limit : Nat) (p : Port) : Received × Port :=
  let pipe := p.inbound
  if pipe.held.isEmpty then
    if pipe.closed then (.ended, p)
    else (.blocked, { p with inbound := { pipe with readerWaits := true } })
  else
    let (front, back) := pipe.held.splitAt limit
    (.arrived front,
      { p with inbound := { pipe with held := back, writerWaits := false } }.noteWake .writable
        pipe.writerWaits)

/-- Writes as much as there is room for. -/
def send (freight : Freight) (p : Port) : Sent × Port :=
  let pipe := p.outbound
  if freight.isEmpty then (.complete, p)
  else if pipe.closed then (.broken, p)
  else
    let (front, back) := freight.splitAt pipe.room
    let moved := if front.isEmpty then p else
      { p with outbound := { pipe with held := pipe.held ++ front, readerWaits := false } }.noteWake
        .readable pipe.readerWaits
    if back.isEmpty then (.complete, moved)
    else (.blocked back,
      { moved with outbound := { moved.outbound with writerWaits := true } })

/-- This end of the stream goes away. -/
def shut (p : Port) : Port :=
  ({ p with outbound := p.outbound.close, inbound := p.inbound.close }.noteWake .readable
    p.outbound.readerWaits).noteWake .writable p.inbound.writerWaits

end Port

end Parley.Wire

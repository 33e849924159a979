import Parley.Bytes
import Parley.Error

namespace Parley

inductive FrameKind
  | text
  | binary
  deriving DecidableEq, Repr

structure Frame where
  kind : FrameKind
  data : Bytes
  deriving DecidableEq, Repr

inductive ControlKind
  | ping
  | pong
  | close
  deriving DecidableEq, Repr

structure CloseReason where
  code : UInt16
  text : String
  deriving DecidableEq, Repr

namespace CloseReason

def normal : CloseReason := ⟨1000, ""⟩

def goingAway (text : String) : CloseReason := ⟨1001, text⟩

end CloseReason

abbrev HeaderField := String × String

/-- How a server session accepts the upgrade request on its stream. -/
structure AcceptPolicy where
  /-- Refuse requests for any other path. -/
  path : Option String := none
  /-- Refuse requests that do not offer this subprotocol; it is named in the response. -/
  protocol : Option String := none
  headers : List HeaderField := []
  deriving DecidableEq, Repr

/-- What a client session asks for in its upgrade request. -/
structure UpgradeRequest where
  host : String
  target : String
  headers : List HeaderField
  deriving DecidableEq, Repr

structure UpgradeResponse where
  status : Nat
  headers : List HeaderField
  deriving DecidableEq, Repr

inductive Operation
  | accept (policy : AcceptPolicy)
  | handshake (request : UpgradeRequest)
  | read
  | write (kind : FrameKind) (data : Bytes)
  | ping (payload : Bytes)
  | pong (payload : Bytes)
  | close (reason : CloseReason)
  | forceClose
  deriving DecidableEq, Repr

abbrev Outcome (α : Type) := Except TransportError α

/-- The outcome of one operation, or an inbound control frame. -/
inductive Completion
  | accepted (outcome : Outcome Unit)
  | handshaked (outcome : Outcome UpgradeResponse)
  | read (outcome : Outcome Frame)
  /-- Carries the number of payload bytes written. -/
  | written (outcome : Outcome Nat)
  | pinged (outcome : Outcome Unit)
  | ponged (outcome : Outcome Unit)
  | closed (outcome : Outcome Unit)
  | control (kind : ControlKind) (payload : Bytes)

end Parley

import Parley.Transport

namespace Parley.Wire

structure RequestHead where
  target : Bytes
  /-- The subprotocols offered, one text for each field that offers some. -/
  offers : List String
  fields : Nat
  size : Nat
  deriving DecidableEq, Repr

/-- The head of the answer to it; names are in lower case. -/
structure ResponseHead where
  status : Nat
  reason : String
  headers : List HeaderField
  size : Nat
  deriving DecidableEq, Repr

inductive WireFrame
  | data (kind : FrameKind) (payload : Bytes)
  | ping (payload : Bytes)
  | pong (payload : Bytes)
  | close (reason : CloseReason)
  deriving DecidableEq, Repr

namespace WireFrame

def isControl : WireFrame → Bool
  | data .. => false
  | ping _ | pong _ | close _ => true

/-- A close frame carries its code in two bytes ahead of the text. -/
def payloadSize : WireFrame → Nat
  | data _ payload | ping payload | pong payload => payload.length
  | close reason => 2 + reason.text.utf8ByteSize

/-- The size on the wire; the client's frames carry a mask. -/
def size (masked : Bool) (f : WireFrame) : Nat :=
  let n := f.payloadSize
  let lengthField := if n < 126 then 0 else if n < UInt16.size then 2 else 8
  2 + lengthField + (if masked then 4 else 0) + n

end WireFrame

inductive Parcel
  | request (head : RequestHead)
  | response (head : ResponseHead)
  /-- Text behind a response that refuses. -/
  | body
  | frame (frame : WireFrame)
  deriving DecidableEq, Repr

/-- Some bytes of a parcel; the last of them complete it. -/
structure Stretch where
  parcel : Parcel
  bytes : Nat
  isLast : Bool := true
  deriving DecidableEq, Repr

abbrev Freight := List Stretch

namespace Freight

def size (f : Freight) : Nat := f.foldr (fun stretch n => stretch.bytes + n) 0

def splitAt : (n : Nat) → Freight → Freight × Freight
  | _, [] => ([], [])
  | n, s :: rest =>
    if n = 0 then ([], s :: rest)
    else if s.bytes ≤ n then
      let (front, back) := splitAt (n - s.bytes) rest
      (s :: front, back)
    else ([{ s with bytes := n, isLast := false }], { s with bytes := s.bytes - n } :: rest)

/-- The first parcel, if all of it is there, and what is behind it. -/
def unload : Freight → Option (Parcel × Freight)
  | [] => none
  | s :: rest => if s.isLast then some (s.parcel, rest) else unload rest

end Freight

end Parley.Wire

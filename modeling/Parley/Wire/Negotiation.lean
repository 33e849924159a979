import Parley.Wire.Pipe
import Parley.Wire.Upgrade

namespace Parley.Wire

/-- What has come in of a head, and in how many pieces. -/
structure Intake where
  freight : Freight := []
  packets : Nat := 0
  bytes : Nat := 0

namespace Intake

/-- The most bytes taken in one piece. -/
def pieceSize : Nat := 4096

/-- A head that is too long, or comes in too many or too small pieces, is taken for an attack. -/
def isAttack (i : Intake) : Bool :=
  65536 < i.bytes || 512 < i.packets || (64 < i.packets && i.bytes < i.packets * 128)

def add (piece : Freight) (i : Intake) : Intake :=
  { freight := i.freight ++ piece, packets := i.packets + 1, bytes := i.bytes + piece.size }

end Intake

/-- Where an end of the upgrade stands. -/
inductive Stage
  | serverReads (policy : AcceptPolicy) (intake : Intake)
  | serverWrites (answer : Answer) (left : Freight)
  | clientWrites (head : RequestHead) (left : Freight)
  | clientReads (head : RequestHead) (intake : Intake)

inductive Progress
  | blocked (stage : Stage)
  | accepted
  /-- Carries what came in behind the answer. -/
  | joined (response : UpgradeResponse) (behind : Freight)
  | failed (error : TransportError)

namespace Stage

def serve (policy : AcceptPolicy) : Stage := .serverReads policy {}

/-- Where a client starts, unless its request cannot be written. -/
def ask (r : UpgradeRequest) : Except TransportError Stage := do
  let request ← http.handshake r
  let head ← (RequestHead.ofRequest request).mapError (·.toTransport)
  .ok (.clientWrites head [⟨.request head, head.size, true⟩])

def fail (e : SocketError) : Progress := .failed e.toTransport

/-- What a failed write reports. -/
def brokenPipe : SocketError := .io "broken pipe"

/-- Writes the answer, or what is left of it. -/
def writeAnswer (answer : Answer) (left : Freight) (port : Port) : Progress × Port :=
  match port.send left with
  | (.broken, port) => (fail brokenPipe, port)
  | (.blocked rest, port) => (.blocked (.serverWrites answer rest), port)
  | (.complete, port) =>
    if answer.isRefusal then (fail (.refused answer.head.status answer.head.reason), port)
    else (.accepted, port)

/-- Reads pieces until a request is whole, and answers it. -/
def readRequest (policy : AcceptPolicy) : (fuel : Nat) → Intake → Port → Progress × Port
  | 0, intake, port => (.blocked (.serverReads policy intake), port)
  | fuel + 1, intake, port =>
    match port.receive Intake.pieceSize with
    | (.ended, port) => (fail .handshakeIncomplete, port)
    | (.blocked, port) => (.blocked (.serverReads policy intake), port)
    | (.arrived piece, port) =>
      let intake := intake.add piece
      if intake.isAttack then (fail .attackAttempt, port)
      else
        match intake.freight.unload with
        | some (.request head, _) =>
          match Wire.answer policy head with
          | .ok answer => writeAnswer answer answer.freight port
          | .error e => (fail e, port)
        | _ => readRequest policy fuel intake port

def readResponse (head : RequestHead) : (fuel : Nat) → Intake → Port → Progress × Port
  | 0, intake, port => (.blocked (.clientReads head intake), port)
  | fuel + 1, intake, port =>
    match port.receive Intake.pieceSize with
    | (.ended, port) => (fail .handshakeIncomplete, port)
    | (.blocked, port) => (.blocked (.clientReads head intake), port)
    | (.arrived piece, port) =>
      let intake := intake.add piece
      if intake.isAttack then (fail .attackAttempt, port)
      else
        match intake.freight with
        | ⟨.request _, _, _⟩ :: _ => (fail .wrongVersion, port)
        | freight =>
          match freight.unload with
          | some (.response answer, behind) =>
            match verify head answer with
            | .ok response => (.joined response behind, port)
            | .error e => (fail e, port)
          | _ => readResponse head fuel intake port

/-- More pieces than a pipe holds. -/
def pieces (port : Port) : Nat := port.inbound.held.size + 2

/-- Goes on until the upgrade is over or has to wait. -/
def advance (stage : Stage) (port : Port) : Progress × Port :=
  match stage with
  | .serverReads policy intake => readRequest policy (pieces port) intake port
  | .serverWrites answer left => writeAnswer answer left port
  | .clientReads head intake => readResponse head (pieces port) intake port
  | .clientWrites head left =>
    match port.send left with
    | (.broken, port) => (fail brokenPipe, port)
    | (.blocked rest, port) => (.blocked (.clientWrites head rest), port)
    | (.complete, port) => readResponse head (pieces port) {} port

end Stage

end Parley.Wire

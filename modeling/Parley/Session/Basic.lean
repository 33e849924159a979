import Parley.Session.Phase
import Parley.Session.Watchdog

namespace Parley

/-- A server session accepts an upgrade, a client session asks for one. -/
inductive Role
  | server
  | client (host target : String) (headers : List HeaderField)
  deriving DecidableEq, Repr

def Role.name : Role → String
  | server => "Server"
  | client .. => "Client"

/-- A session between two operations. One read and one write are outstanding at most; what is queued
while a write is in flight goes out when it completes. -/
structure Session where
  id : SessionId
  role : Role
  config : SessionConfig
  watchdog : Option Watchdog
  frameMode : FrameMode
  /-- The type of the next data frame sent. -/
  outgoing : FrameKind
  phase : Phase := .created
  readable : Bool := true
  writing : Bool := false
  /-- Whether the outstanding write is followed by a read. -/
  writeNextRead : Bool := true
  /-- A hook with an output is running; writes wait until it returns. -/
  inHook : Bool := false
  forced : Bool := false
  ended : Bool := false
  output : Bytes := []
  /-- Operations issued and not yet completed. -/
  pending : Nat := 0
  /-- The server's answer, while the handshake hook runs. -/
  response : Option UpgradeResponse := none
  /-- Whether a handle to the session can be taken. -/
  reachable : Bool := false

inductive Event
  | issued (op : Operation)
  | entered (hook : Hook)
  | marked (mark : Mark)
  | inspected (what : Inspection) (session : Session)
  | warned (warning : Warning)
  | delivered (delivery : Delivery)
  | posted (receiver : SessionId) (command : Command)

namespace Session

/-- A session over a stream that still has to accept the upgrade. -/
def server (id : SessionId) (config : SessionConfig) : Session :=
  { id, role := .server, config, watchdog := some .new
    frameMode := config.frameMode, outgoing := config.frameMode.initial }

/-- A session over a stream that still has to ask for the upgrade. -/
def client (id : SessionId) (config : ClientConfig) : Session :=
  { id, role := .client config.address config.target config.headers, config := config.session
    watchdog := if config.keepalive then some .new else none
    frameMode := config.session.frameMode, outgoing := config.session.frameMode.initial }

structure Step where
  session : Session
  events : List Event := []

def stay (s : Session) : Step := { session := s }

/-- Becomes `s` and asks the connection for one operation. -/
def issue (s : Session) (op : Operation) : Step := { session := s, events := [.issued op] }

def isClosed (s : Session) : Bool := s.phase.isClosed

def isEstablished (s : Session) : Bool := s.phase.isEstablished

def target (s : Session) : String :=
  match s.role with
  | .client _ target _ => target
  | .server => ""

def deadline (s : Session) : Option Nat := s.watchdog.bind (·.deadline)

/-- The session as one line of text, less its id and the instant of its upgrade. -/
def describe (s : Session) : String :=
  String.join ["Session \x7b id: SessionId(_), role: ", s.role.name, ", phase: ", s.phase.name,
    ", readable: ", toString s.readable, ", writing: ", toString s.writing,
    ", pending: ", toString s.pending, ", .. \x7d"]

/-- The watchdog of a session that needs one from now on. -/
def dog (s : Session) : Watchdog := s.watchdog.getD .new

/-- Moves the deadline one idle window ahead, where there is a watchdog. -/
def armIdle (now : Nat) (s : Session) : Session :=
  { s with watchdog := s.watchdog.map (·.arm (now + s.config.idle)) }

/-- A sign of life: the idle window starts over, and with it the default wait. -/
def keepalive (now : Nat) (s : Session) : Session :=
  if s.isClosed then s
  else { s with watchdog := s.watchdog.map fun d => (d.arm (now + s.config.idle)).launch .probe }

/-- The peer sent data: the idle window starts over, and a probe that waits for its answer is
taken back. -/
def peerActive (now : Nat) (s : Session) : Session :=
  { s with watchdog := s.watchdog.map fun d =>
      let d := d.arm (now + s.config.idle)
      if d.isEscalated then d.launch .probe else d }

/-- Gives the peer one probe window to answer. -/
def awaitAnswer (now : Nat) (d : Watchdog) (s : Session) : Session :=
  { s with watchdog := some ((d.arm (now + s.config.probe)).launch .forceClose) }

def launchTimer (action : TimerAction) (s : Session) : Session :=
  { s with watchdog := some (s.dog.launch action) }

def armTimer (now window : Nat) (s : Session) : Session :=
  { s with watchdog := some (s.dog.arm (now + window)) }

/-- The wait that is over by `instant`, with the session that has it no more. -/
def poll (instant : Nat) (s : Session) : Option TimerAction × Session :=
  match s.watchdog with
  | none => (none, s)
  | some dog => ((dog.poll instant).1, { s with watchdog := some (dog.poll instant).2 })

/-- Accepts the upgrade, once, on a server session. A peer that never completes the upgrade is
dropped after the idle window. -/
def accept (now : Nat) (policy : AcceptPolicy) (s : Session) : Step :=
  match s.role, s.phase.beginEstablish with
  | .server, .ok phase =>
    let s := keepalive now { s with phase }
    issue { s with pending := s.pending + 1 } (.accept policy)
  | _, _ => s.stay

/-- Asks for the upgrade, once, on a client session. -/
def handshake (now : Nat) (target : String) (s : Session) : Step :=
  match s.role, s.phase.beginEstablish with
  | .client host _ headers, .ok phase =>
    let s := keepalive now { s with phase }
    issue { s with pending := s.pending + 1 } (.handshake ⟨host, target, headers⟩)
  | _, _ => s.stay

/-- Issues a read, unless one is outstanding or frames cannot be expected. -/
def read (now : Nat) (s : Session) : Step :=
  if s.readable && s.phase.canSend then
    let s := s.armIdle now
    issue { s with readable := false, pending := s.pending + 1 } .read
  else s.stay

/-- Writes all that is queued, unless a hook runs, a write is in flight or nothing is queued.
`nextRead` says whether a read follows the write. -/
def flush (nextRead : Bool) (s : Session) : Step :=
  if !s.inHook && !s.writing && !s.output.isEmpty && s.phase.canSend then
    issue
      { s with
        output := [], writing := true, writeNextRead := nextRead, pending := s.pending + 1 }
      (.write s.outgoing s.output)
  else s.stay

def write (s : Session) : Step := s.flush true

def push (data : Bytes) (s : Session) : Step :=
  write { s with output := s.output ++ data }

def ping (now : Nat) (payload : Bytes) (s : Session) : Step :=
  if s.phase.canSend then
    let s := s.armIdle now
    issue { s with pending := s.pending + 1 } (.ping payload)
  else s.stay

def pong (now : Nat) (payload : Bytes) (s : Session) : Step :=
  if s.phase.canSend then
    let s := s.armIdle now
    issue { s with pending := s.pending + 1 } (.pong payload)
  else s.stay

def close (now : Nat) (reason : CloseReason) (s : Session) : Step :=
  match s.phase.canSend, s.phase.beginClose with
  | true, .ok phase =>
    let s := armIdle now { s with phase }
    issue { s with pending := s.pending + 1 } (.close reason)
  | _, _ => s.stay

/-- Ends the session: the queue is dropped and no wait is left. -/
def terminate (s : Session) : Session :=
  { s with phase := .closed, output := [], watchdog := s.watchdog.map (·.cancel) }

/-- Drops the connection, once, and ends the session. -/
def forceClose (s : Session) : Step :=
  if s.forced then s.terminate.stay
  else issue (terminate { s with forced := true }) .forceClose

def lose (s : Session) : Session := terminate { s with pending := 0 }

/-- In the automatic mode the type of the next frame is left as it is. -/
def setFrameMode (mode : FrameMode) (s : Session) : Session :=
  match mode with
  | .auto => { s with frameMode := .auto }
  | .fixed kind => { s with frameMode := mode, outgoing := kind }

/-- An operation failed. Only a failure that ends a live session is reported; only an aborted
operation leaves the connection to itself. -/
def fail (op : String) (error : TransportError) (s : Session) : Step :=
  let reports := if s.isClosed || error.isSilent then [] else [.warned (.sessionFailed op error)]
  let step := if error = .aborted then s.terminate.stay else s.forceClose
  { step with events := reports ++ step.events }

/-- Writes what is queued, or else goes on reading. -/
def advance (now : Nat) (nextRead : Bool) (s : Session) : Step :=
  if s.isClosed then s.stay
  else if !s.output.isEmpty then s.flush nextRead
  else if nextRead then s.read now
  else s.stay

/-- The queue moves out to the hook that is about to run. -/
def lend (s : Session) : Session := { s with inHook := true, output := [] }

/-- The hook's output comes back, followed by what was pushed while the hook ran. -/
def restore (output : Bytes) (s : Session) : Session :=
  { s with inHook := false, output := output ++ s.output }

end Session

end Parley

import Parley.Session.Basic

namespace Parley

/-- The output that a hook fills, and whether a read follows. -/
structure Draft where
  output : Bytes := []
  nextRead : Bool := true

/-- One line of the record of a session. -/
inductive Note
  /-- An action began, at this instant and on the session as it was then. -/
  | began (now : Nat) (session : Session) (action : Action)
  /-- A hook was about to be called, on the session as it was then. -/
  | called (session : Session) (hook : Hook)
  /-- A hook was lent the queue as its output. -/
  | lent (output : Bytes)
  /-- The hook that was lent this gave its draft back. -/
  | returned (lent : Bytes) (draft : Draft)
  | did (event : Event)

/-- A session acting at one instant. `shared` is what its handler keeps between hooks, and
`events` is all that has happened in this turn. The record has the same, with what it was that
made it happen. -/
structure Turn (σ : Type) where
  now : Nat
  session : Session
  shared : σ
  draft : Draft := {}
  events : List Event := []
  record : List Note := []

structure Handler (σ : Type) where
  /-- The actions that answer a hook, and what the handler keeps afterwards. -/
  react : Hook → Session → σ → σ × List Action
  /-- Whether the handler keeps a handle to this session. -/
  holds : σ → SessionId → Bool := fun _ _ => false

/-- How hooks are called and bodies are run inside a turn. -/
structure Host (σ : Type) where
  call : Hook → Turn σ → Turn σ
  run : List Action → Turn σ → Turn σ

/-- What a handler does that leaves a hook to its default. -/
def Hook.standard (s : Session) : Hook → List Action
  | .connect => [.handshake s.target]
  | .pong _ => [.keepalive]
  | _ => []

variable {σ : Type}

namespace Turn

def note (n : Note) (t : Turn σ) : Turn σ :=
  { t with record := t.record ++ [n] }

def emit (event : Event) (t : Turn σ) : Turn σ :=
  { t.note (.did event) with events := t.events ++ [event] }

def update (f : Session → Session) (t : Turn σ) : Turn σ :=
  { t with session := f t.session }

def step (f : Session → Session.Step) (t : Turn σ) : Turn σ :=
  let r := f t.session
  { t with
    session := r.session, events := t.events ++ r.events
    record := t.record ++ r.events.map .did }

/-- Runs `f` with a draft of its own, and gives that draft as `f` left it. -/
def within (draft : Draft) (f : Turn σ → Turn σ) (t : Turn σ) : Turn σ × Draft :=
  let inner := f { t with draft }
  ({ inner with draft := t.draft }, inner.draft)

def call (host : Host σ) (hook : Hook) (t : Turn σ) : Turn σ :=
  (t.within {} (host.call hook)).1

/-- Runs a posted body or a timer, which has no output. -/
def run (host : Host σ) (body : List Action) (t : Turn σ) : Turn σ :=
  (t.within {} (host.run body)).1

/-- Lends the queue to a hook for the length of its call. -/
def consult (host : Host σ) (hook : Bytes → Hook) (t : Turn σ) : Turn σ × Draft :=
  let lent := t.session.output
  let (t, draft) :=
    ((t.note (.lent lent)).update (·.lend)).within { output := lent } (host.call (hook lent))
  ((t.note (.returned lent draft)).update (·.restore draft.output), draft)

def connected (host : Host σ) (t : Turn σ) : Turn σ :=
  match t.session.role with
  | .client .. => t.call host .connect
  | .server => t

/-- Runs the watchdog if its deadline has passed by `instant`. -/
def fireTimer (host : Host σ) (instant : Nat) (t : Turn σ) : Turn σ :=
  let (action?, session) := t.session.poll instant
  let t := { t with session }
  match action? with
  | none => t
  | some (.custom body) => t.run host body
  | some .forceClose => t.step (·.forceClose)
  | some .probe =>
    if t.session.phase.canSend then
      (t.step (·.ping t.now [])).update fun s => s.awaitAnswer t.now s.dog
    else t.step (·.forceClose)

def applyCommand (host : Host σ) (t : Turn σ) : Command → Turn σ
  | .push data => t.step (·.push data)
  | .read => t.step (·.read t.now)
  | .ping payload => t.step (·.ping t.now payload)
  | .close reason => t.step (·.close t.now reason)
  | .run body => t.run host body

def accepted (host : Host σ) (t : Turn σ) : Outcome Unit → Turn σ
  | .error e => t.step (·.fail "accept" e)
  | .ok () =>
    match t.session.phase.completeEstablish t.now with
    | .error _ => t
    | .ok phase =>
      let t := t.update fun s => { s with phase }
      let t := match t.session.role with
        | .server => (t.consult host .accept).1
        | .client .. => t.update (·.lend.restore t.session.output)
      t.step (·.advance t.now true)

/-- No read follows a handshake by itself; only a write carries one. -/
def handshaked (host : Host σ) (t : Turn σ) : Outcome UpgradeResponse → Turn σ
  | .error e => t.step (·.fail "handshake" e)
  | .ok response =>
    match t.session.phase.completeEstablish t.now with
    | .error _ => t
    | .ok phase =>
      let t := t.update fun s => Session.keepalive t.now { s with phase }
      let (t, draft) := match t.session.role with
        | .client .. =>
          (t.update fun s => { s with response := some response }).consult host
            (.handshake response)
        | .server => (t.update (·.lend.restore t.session.output), {})
      let t := t.update fun s => { s with response := none }
      t.step (·.flush draft.nextRead)

/-- In the automatic mode the reply goes out in the type of the frame it answers. -/
def readDone (host : Host σ) (t : Turn σ) : Outcome Frame → Turn σ
  | .error e => (t.update fun s => { s with readable := true }).step (·.fail "read" e)
  | .ok frame =>
    let t := t.update fun s => { s with readable := true }
    if t.session.isClosed then t
    else
      let (t, draft) := (t.update (·.peerActive t.now)).consult host (.message frame.data)
      let follow := match t.session.role with
        | .client .. => draft.nextRead
        | .server => true
      let t := t.update fun s => if s.frameMode = .auto then { s with outgoing := frame.kind } else s
      t.step (·.advance t.now follow)

def writeDone (t : Turn σ) (outcome : Outcome Nat) : Turn σ :=
  let follow := t.session.writeNextRead
  let t := t.update fun s => { s with writing := false, writeNextRead := true }
  match outcome with
  | .error e => t.step (·.fail "write" e)
  | .ok _ => t.step (·.advance t.now follow)

def controlSent (op : String) (t : Turn σ) : Outcome Unit → Turn σ
  | .error e => t.step (·.fail op e)
  | .ok () => t.step (·.read t.now)

/-- The session is over once its close frame is out; a peer that is still being read from has
one probe window to answer it. -/
def closeSent (t : Turn σ) : Outcome Unit → Turn σ
  | .error e => t.step (·.fail "close" e)
  | .ok () =>
    t.update fun s =>
      let s := s.terminate
      if s.readable then s else s.awaitAnswer t.now s.dog

/-- A control frame of the peer. What the hook queued goes out at once. -/
def controlReceived (host : Host σ) (kind : ControlKind) (payload : Bytes) (t : Turn σ) : Turn σ :=
  if t.session.isClosed then t
  else
    let hook := match kind with
      | .ping => .ping payload
      | .pong => .pong payload
      | .close => .close payload
    (t.call host hook).step (·.write)

/-- One operation less is outstanding; a control frame answers none. -/
def settle (completion : Completion) (t : Turn σ) : Turn σ :=
  match completion with
  | .control .. => t
  | _ => t.update fun s => { s with pending := s.pending - 1 }

/-- Feeds the outcome of an operation, or a control frame of the peer. -/
def complete (host : Host σ) (completion : Completion) (t : Turn σ) : Turn σ :=
  let t := t.settle completion
  match completion with
  | .accepted outcome => t.accepted host outcome
  | .handshaked outcome => t.handshaked host outcome
  | .read outcome => t.readDone host outcome
  | .written outcome => t.writeDone outcome
  | .pinged outcome => t.controlSent "ping" outcome
  | .ponged outcome => t.controlSent "pong" outcome
  | .closed outcome => t.closeSent outcome
  | .control kind payload => t.controlReceived host kind payload

/-- The session is no longer serviced; its handler hears of it once. -/
def finish (host : Host σ) (t : Turn σ) : Turn σ :=
  if t.session.ended then t
  else (t.update fun s => { s with ended := true }).call host .finish

def carryOut (host : Host σ) (t : Turn σ) : Action → Turn σ
  | .accept policy => t.step (·.accept t.now policy)
  | .connected => t.connected host
  | .handshake target => t.step (·.handshake t.now target)
  | .read => t.step (·.read t.now)
  | .write => t.step (·.write)
  | .push data => t.step (·.push data)
  | .queue data => t.update fun s => { s with output := s.output ++ data }
  | .clearQueue => t.update fun s => { s with output := [] }
  | .ping payload => t.step (·.ping t.now payload)
  | .pong payload => t.step (·.pong t.now payload)
  | .close reason => t.step (·.close t.now reason)
  | .forceClose => t.step (·.forceClose)
  | .setFrameMode mode => t.update (·.setFrameMode mode)
  | .launchTimer => t.update (·.launchTimer .probe)
  | .launchTimerWith body => t.update (·.launchTimer (.custom body))
  | .armTimer window => t.update (·.armTimer t.now window)
  | .keepalive => t.update (·.keepalive t.now)
  | .fireTimer instant? => t.fireTimer host (instant?.getD t.now)
  | .apply command => t.applyCommand host command
  | .complete completion => t.complete host completion
  | .transportLost => t.update (·.lose)
  | .finish => t.finish host
  | .append data => { t with draft := { t.draft with output := t.draft.output ++ data } }
  | .clearOutput => { t with draft := { t.draft with output := [] } }
  | .nextRead follow => { t with draft := { t.draft with nextRead := follow } }
  | .post receiver command => t.emit (.posted receiver command)
  | .warn warning => t.emit (.warned warning)
  | .deliver delivery => t.emit (.delivered delivery)
  | .leaveMark mark => t.emit (.marked mark)
  | .inspect what => t.emit (.inspected what t.session)

/-- Carries out one action and takes it down in the record. -/
def perform (host : Host σ) (t : Turn σ) (action : Action) : Turn σ :=
  (t.note (.began t.now t.session action)).carryOut host action

def performAll (host : Host σ) (actions : List Action) (t : Turn σ) : Turn σ :=
  actions.foldl (perform host) t

end Turn

namespace Handler

/-- The handler at work, with hooks nested at most `depth` deep; a hook beyond that depth goes
unanswered. -/
def host (h : Handler σ) : (depth : Nat) → Host σ
  | 0 => ⟨fun _ t => t, fun _ t => t⟩
  | depth + 1 =>
    { call := fun hook t =>
        let t := t.note (.called t.session hook)
        let (shared, actions) := h.react hook t.session t.shared
        Turn.performAll (h.host depth) actions (Turn.emit (.entered hook) { t with shared })
      run := fun body t => Turn.performAll (h.host depth) body t }

/-- How deep hooks may nest in a hook. One that calls itself on every entry has no other end. -/
def nesting : Nat := 99

def perform (h : Handler σ) (t : Turn σ) (action : Action) : Turn σ :=
  t.perform (h.host (nesting + 1)) action

def standard : Handler σ where
  react hook session shared := (shared, hook.standard session)

end Handler

end Parley

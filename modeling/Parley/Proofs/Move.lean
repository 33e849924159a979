import Parley.Session.Turn

namespace Parley

def Note.event? : Note → Option Event
  | .did event => some event
  | _ => none

def Note.operation? : Note → Option Operation
  | .did (.issued op) => some op
  | _ => none

def operations (r : List Note) : List Operation := r.filterMap (·.operation?)

theorem operations_append (r m : List Note) : operations (r ++ m) = operations r ++ operations m :=
  List.filterMap_append

theorem mem_operations {r : List Note} {op : Operation} :
    op ∈ operations r ↔ .did (.issued op) ∈ r := by
  refine ⟨fun h => ?_, fun h => List.mem_filterMap.mpr ⟨_, h, rfl⟩⟩
  obtain ⟨n, hn, ho⟩ := List.mem_filterMap.mp h
  unfold Note.operation? at ho
  split at ho
  · cases ho
    exact hn
  · cases ho

/-- The session that a line shows, as an action begins or a hook is called. -/
def Note.session? : Note → Option Session
  | .began _ s _ | .called s _ => some s
  | _ => none

/-- The lines that a step writes into the record. -/
def Session.Step.notes (r : Session.Step) : List Note := r.events.map .did

theorem Session.Step.mem_notes {r : Session.Step} {event : Event} :
    .did event ∈ r.notes ↔ event ∈ r.events := by
  simp [Session.Step.notes]

/-- Hooks that a closed session still calls. -/
def Hook.outlives : Hook → Bool
  | .connect | .finish => true
  | _ => false

namespace Session

@[simp] theorem stay_session (s : Session) : s.stay.session = s := rfl

@[simp] theorem stay_events (s : Session) : s.stay.events = [] := rfl

@[simp] theorem issue_session (s : Session) (op : Operation) : (s.issue op).session = s := rfl

@[simp] theorem issue_events (s : Session) (op : Operation) :
    (s.issue op).events = [.issued op] := rfl

/-- A sign of life moves the watchdog and nothing else. -/
theorem keepalive_eq (now : Nat) (s : Session) :
    s.keepalive now =
      { s with watchdog :=
          if s.isClosed then s.watchdog
          else s.watchdog.map fun d => (d.arm (now + s.config.idle)).launch .probe } := by
  unfold keepalive
  split <;> rfl

/-- A session without its watchdog. -/
def unwatched (s : Session) : Session := { s with watchdog := none }

/-- What a completion changes as it arrives, before anything follows from it. -/
def received (c : Completion) (s : Session) : Session :=
  match c with
  | .control .. => s
  | .read _ => { s with pending := s.pending - 1, readable := true }
  | .written _ => { s with pending := s.pending - 1, writing := false, writeNextRead := true }
  | _ => { s with pending := s.pending - 1 }

/-- The hook with an output that a completion leads to. -/
def asks (s : Session) : Completion → Option (Bytes → Hook)
  | .accepted (.ok ()) =>
    match s.role, s.phase with
    | .server, .establishing => some .accept
    | _, _ => none
  | .handshaked (.ok response) =>
    match s.role, s.phase with
    | .client .., .establishing => some (.handshake response)
    | _, _ => none
  | .read (.ok frame) => if s.isClosed then none else some (.message frame.data)
  | _ => none

/-- The session as it asks its handler. -/
def asking (now : Nat) (c : Completion) (s : Session) : Session :=
  match c with
  | .accepted _ => { s.received c with phase := .established now }
  | .handshaked (.ok response) =>
    { keepalive now { s.received c with phase := .established now } with response := some response }
  | .read _ => (s.received c).peerActive now
  | _ => s.received c

/-- What follows once the handler has answered. -/
def resume (now : Nat) (c : Completion) (draft : Draft) (s : Session) : Step :=
  match c with
  | .accepted _ => s.advance now true
  | .handshaked _ => flush draft.nextRead { s with response := none }
  | .read (.ok frame) =>
    let follow := match s.role with
      | .client .. => draft.nextRead
      | .server => true
    advance now follow (if s.frameMode = .auto then { s with outgoing := frame.kind } else s)
  | _ => s.stay

/-- What a completion does that asks nobody. -/
def absorb (now : Nat) (c : Completion) (s : Session) : Step :=
  let s' := s.received c
  match c with
  | .accepted (.error e) => s'.fail "accept" e
  | .accepted (.ok ()) =>
    match s.phase with
    | .establishing =>
      advance now true { s' with phase := .established now, inHook := false }
    | _ => s'.stay
  | .handshaked (.error e) => s'.fail "handshake" e
  | .handshaked (.ok _) =>
    match s.phase with
    | .establishing =>
      flush true
        { keepalive now { s' with phase := .established now } with inHook := false, response := none }
    | _ => s'.stay
  | .read (.error e) => s'.fail "read" e
  | .read (.ok _) => s'.stay
  | .written (.error e) => s'.fail "write" e
  | .written (.ok _) => s'.advance now s.writeNextRead
  | .pinged (.error e) => s'.fail "ping" e
  | .ponged (.error e) => s'.fail "pong" e
  | .pinged (.ok ()) | .ponged (.ok ()) => s'.read now
  | .closed (.error e) => s'.fail "close" e
  | .closed (.ok ()) =>
    stay (if s'.readable then s'.terminate else s'.terminate.awaitAnswer now s'.terminate.dog)
  | .control .. => s'.stay

/-- What a timer does that fires as of `instant`, up to the body that it may run. -/
def fire (now instant : Nat) (s : Session) : Step :=
  let (action?, s) := s.poll instant
  match action? with
  | none | some (.custom _) => s.stay
  | some .forceClose => s.forceClose
  | some .probe =>
    if s.phase.canSend then
      let r := s.ping now []
      { r with session := r.session.awaitAnswer now r.session.dog }
    else s.forceClose

/-- The watchdog lets the session be, drops it, or makes it ping. -/
inductive Fires (now : Nat) (s : Session) : Step → Prop
  | rests (s' : Session) (h : s'.unwatched = s.unwatched) : Fires now s s'.stay
  | drops (s' : Session) (h : s'.unwatched = s.unwatched) : Fires now s s'.forceClose
  | pings (s' s'' : Session) (h : s'.unwatched = s.unwatched)
      (h' : s''.unwatched = (s'.ping now []).session.unwatched) :
    Fires now s { s'.ping now [] with session := s'' }

theorem fires (now instant : Nat) (s : Session) : s.Fires now (s.fire now instant) := by
  have hu : (s.poll instant).2.unwatched = s.unwatched := by
    unfold poll
    split <;> rfl
  unfold fire
  generalize s.poll instant = polled at hu ⊢
  rcases polled with ⟨_ | (_ | body | _), s'⟩
  · exact .rests s' hu
  · dsimp only
    split
    · exact .pings s' _ hu rfl
    · exact .drops s' hu
  · exact .rests s' hu
  · exact .drops s' hu

end Session

/-- What a command does before it runs a body. -/
def Command.effect (now : Nat) (s : Session) : Command → Session.Step
  | .push data => s.push data
  | .read => s.read now
  | .ping payload => s.ping now payload
  | .close reason => s.close now reason
  | .run _ => s.stay

namespace Action

/-- The hook with an output that an action leads to. -/
def asks (s : Session) : Action → Option (Bytes → Hook)
  | .complete c => s.asks c
  | _ => none

/-- What an action does before it calls a hook or runs a body. -/
def effect (now : Nat) (s : Session) : Action → Session.Step
  | .accept policy => s.accept now policy
  | .handshake target => s.handshake now target
  | .read => s.read now
  | .write => s.write
  | .push data => s.push data
  | .queue data => Session.stay { s with output := s.output ++ data }
  | .clearQueue => Session.stay { s with output := [] }
  | .ping payload => s.ping now payload
  | .pong payload => s.pong now payload
  | .close reason => s.close now reason
  | .forceClose => s.forceClose
  | .setFrameMode mode => (s.setFrameMode mode).stay
  | .launchTimer => (s.launchTimer .probe).stay
  | .launchTimerWith body => (s.launchTimer (.custom body)).stay
  | .armTimer window => (s.armTimer now window).stay
  | .keepalive => (s.keepalive now).stay
  | .fireTimer instant? => s.fire now (instant?.getD now)
  | .apply command => command.effect now s
  | .complete c => s.absorb now c
  | .transportLost => s.lose.stay
  | .finish => Session.stay { s with ended := true }
  | .post receiver command => ⟨s, [.posted receiver command]⟩
  | .warn warning => ⟨s, [.warned warning]⟩
  | .deliver delivery => ⟨s, [.delivered delivery]⟩
  | .leaveMark mark => ⟨s, [.marked mark]⟩
  | .inspect what => ⟨s, [.inspected what s]⟩
  | .connected | .append _ | .clearOutput | .nextRead _ => s.stay

end Action

/-- What a hook was lent, and on which completion. -/
structure Loan where
  completion : Completion
  output : Bytes

/-- A session with the loans that are not yet returned, the latest first. -/
structure Scene where
  session : Session
  loans : List Loan

/-- One move at an instant, with the lines that it writes. -/
inductive Move : Nat → Scene → List Note → Scene → Prop
  | act (now : Nat) (action : Action) (s : Session) (k : List Loan) (h : ∀ c, action ≠ .complete c) :
    Move now ⟨s, k⟩ (.began now s action :: (action.effect now s).notes)
      ⟨(action.effect now s).session, k⟩
  /-- A completion that asks no hook with an output does what it does at once. -/
  | absorb (now : Nat) (c : Completion) (s : Session) (k : List Loan) (h : s.asks c = none) :
    Move now ⟨s, k⟩ (.began now s (.complete c) :: (s.absorb now c).notes)
      ⟨(s.absorb now c).session, k⟩
  | enter (hook : Hook) (s : Session) (k : List Loan) (h : hook.outlives ∨ s.phase ≠ .closed)
      {now : Nat} :
    Move now ⟨s, k⟩ [.called s hook, .did (.entered hook)] ⟨s, k⟩
  | ask (now : Nat) (c : Completion) (hook : Bytes → Hook) (s : Session) (k : List Loan)
      (h : s.asks c = some hook) :
    Move now ⟨s, k⟩ [.began now s (.complete c), .lent s.output]
      ⟨(s.asking now c).lend, ⟨c, s.output⟩ :: k⟩
  | answer (now : Nat) (loan : Loan) (draft : Draft) (s : Session) (k : List Loan) :
    Move now ⟨s, loan :: k⟩
      (.returned loan.output draft ::
        ((s.restore draft.output).resume now loan.completion draft).notes)
      ⟨((s.restore draft.output).resume now loan.completion draft).session, k⟩
  /-- What a hook of a control frame queued goes out. -/
  | flush (s : Session) (k : List Loan) {now : Nat} :
    Move now ⟨s, k⟩ s.write.notes ⟨s.write.session, k⟩
  /-- Handles to the session come and go. -/
  | reach (held : Bool) (s : Session) (k : List Loan) {now : Nat} :
    Move now ⟨s, k⟩ [] ⟨{ s with reachable := held }, k⟩

theorem Move.of_action (now : Nat) {action : Action} {s : Session} (k : List Loan)
    (h : action.asks s = none) :
    Move now ⟨s, k⟩ (.began now s action :: (action.effect now s).notes)
      ⟨(action.effect now s).session, k⟩ := by
  cases action with
  | complete c => exact .absorb now c s k h
  | _ => exact .act now _ s k (by simp)

inductive Path : Scene → List Note → Scene → Prop
  | refl (x : Scene) : Path x [] x
  | snoc {x y z : Scene} {l m : List Note} {now : Nat} :
    Path x l y → Move now y m z → Path x (l ++ m) z

theorem Path.single {now : Nat} {x y : Scene} {m : List Note} (h : Move now x m y) : Path x m y :=
  .snoc (.refl x) h

theorem Path.append {x y z : Scene} {l m : List Note} (h : Path x l y) (h' : Path y m z) :
    Path x (l ++ m) z := by
  induction h' with
  | refl => simpa using h
  | snoc _ hm ih => simpa [List.append_assoc] using ih.snoc hm

/-- What every move keeps, a path keeps. -/
theorem Path.keeps {P : Scene → List Note → Prop}
    (hm : ∀ {now : Nat} x r m y, P x r → Move now x m y → P y (r ++ m))
    {x y : Scene} {l : List Note} (hp : Path x l y) (h : P x []) : P y l := by
  induction hp with
  | refl => exact h
  | snoc _ hmove ih => exact hm _ _ _ _ ih hmove

/-- A path on a clock, which shows the first instant before it and the second one behind it. -/
inductive Track : Nat → Scene → List Note → Nat → Scene → Prop
  | refl (now : Nat) (x : Scene) : Track now x [] now x
  | snoc {now : Nat} {x : Scene} {now' now'' : Nat} {y z : Scene} {l m : List Note} :
    Track now x l now' y → now' ≤ now'' → Move now'' y m z → Track now x (l ++ m) now'' z

namespace Track

variable {now now' now'' : Nat} {x y z : Scene} {l m : List Note}

theorem single (h : Move now x m y) : Track now x m now y :=
  .snoc (.refl now x) (Nat.le_refl now) h

theorem append (h : Track now x l now' y) (h' : Track now' y m now'' z) :
    Track now x (l ++ m) now'' z := by
  induction h' with
  | refl => simpa using h
  | snoc _ hn hm ih => simpa [List.append_assoc] using ih.snoc hn hm

theorem path (h : Track now x l now' y) : Path x l y := by
  induction h with
  | refl => exact .refl _
  | snoc _ _ hm ih => exact ih.snoc hm

end Track

end Parley

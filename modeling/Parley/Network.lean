import Parley.Hall.Basic
import Parley.Link.Basic
import Parley.Wire.Negotiation
import Parley.Wire.Socket

namespace Parley

open Wire

inductive Task
  | opener (e : Nat)
  | reader (e : Nat)
  | writer (e : Nat)
  | driver (i : SessionId)
  deriving DecidableEq, Repr

/-- The tasks to be woken when a stream gets ready. -/
structure Watch where
  first : Option Task := none
  writer : Bool := false

structure End where
  link : Link := {}
  /-- What comes in; what goes out is held by the other end. -/
  inbound : Pipe
  stage : Option Stage := none
  /-- The WebSocket, once it is established. -/
  socket : Option Socket := none
  /-- The sending in progress is framed. -/
  framed : Bool := false
  shut : Bool := false
  onReadable : Watch := {}
  onWritable : Watch := {}
  /-- Completions given and not looked at. -/
  completions : List Completion := []

/-- The two ends of a stream stand side by side, an even one and the odd one behind it; a session in
the hall has the end with its number. -/
structure Network (σ : Type) where
  hall : Hall σ
  ends : List End := []
  /-- The tasks that can run, in the order in which they will. -/
  queue : List Task := []

namespace Network

variable {σ : Type}

def peer (e : Nat) : Nat := if e % 2 = 0 then e + 1 else e - 1

def modifyEnd (e : Nat) (f : End → End) (n : Network σ) : Network σ :=
  { n with ends := n.ends.modify e f }

def wake (t : Task) (n : Network σ) : Network σ :=
  if n.queue.contains t then n else { n with queue := n.queue ++ [t] }

/-- The other end of `e` learns that the stream got ready for it. -/
def notify (e : Nat) (n : Network σ) (event : PortWake) : Network σ :=
  let p := peer e
  match n.ends[p]? with
  | none => n
  | some far =>
    let (watch, n) := match event with
      | .readable => (far.onReadable, n.modifyEnd p fun x => { x with onReadable := {} })
      | .writable => (far.onWritable, n.modifyEnd p fun x => { x with onWritable := {} })
    let n := watch.first.elim n fun t => n.wake t
    if watch.writer then n.wake (.writer p) else n

def atPort {α : Type} (e : Nat) (f : Port → α × Port) (n : Network σ) : Option (α × Network σ) :=
  match n.ends[e]?, n.ends[peer e]? with
  | some near, some far =>
    let (a, port) := f { inbound := near.inbound, outbound := far.inbound }
    let n := n.modifyEnd e fun x => { x with inbound := port.inbound }
    let n := n.modifyEnd (peer e) fun x => { x with inbound := port.outbound }
    some (a, port.wakes.foldl (notify e) n)
  | _, _ => none

def atSocket {α : Type} (e : Nat) (attempt : Attempt α) (n : Network σ) :
    Option (Except Halt α × Network σ) :=
  match (n.ends[e]?).bind (·.socket) with
  | none => none
  | some socket =>
    let work (port : Port) : (Except Halt α × Socket) × Port :=
      let (r, desk) := attempt.run.run { socket, port }
      ((r, desk.socket), desk.port)
    (n.atPort e work).map fun ((r, socket), n) =>
      (r, n.modifyEnd e fun x => { x with socket := some socket })

def complete (e : Nat) (completions : List Completion) (n : Network σ) : Network σ :=
  if completions.isEmpty then n
  else
    let n := n.modifyEnd e fun x => { x with completions := x.completions ++ completions }
    let feed (h : Hall σ) (c : Completion) : Hall σ := h.modifySeat e (·.feed c)
    wake (.driver e) { n with hall := completions.foldl feed n.hall }

def stepLink (e : Nat) (step : Link.Step) (n : Network σ) : Network σ :=
  (n.modifyEnd e fun x => { x with link := step.link }).complete e step.completions

def shutEnd (e : Nat) (n : Network σ) : Network σ :=
  match n.ends[e]? with
  | none => n
  | some x =>
    if x.shut then n
    else
      let gone := fun (x : End) => { x with shut := true, stage := none, socket := none }
      ((n.atPort e fun port => ((), port.shut)).elim n (·.2)).modifyEnd e gone

/-- The stream goes once both its halves are given up. -/
def release (e : Nat) (n : Network σ) : Network σ :=
  if (n.ends[e]?).any (·.link.isReleased) then n.shutEnd e else n

/-- The tasks of an end that wait for work, or for anything at all. -/
def wakeTasks (e : Nat) (evenBusy : Bool) (n : Network σ) : Network σ :=
  match n.ends[e]? with
  | none => n
  | some x =>
    let opener := match x.link.opener with
      | .waiting => true
      | .working _ => evenBusy
      | .over => false
    let reader := match x.link.reader with
      | .idle => true
      | .reading => evenBusy
      | .absent | .over => false
    let writer := match x.link.writer with
      | .idle => true
      | .writing _ => evenBusy
      | .absent | .over => false
    let n := if opener then n.wake (.opener e) else n
    let n := if reader then n.wake (.reader e) else n
    if writer then n.wake (.writer e) else n

/-- The task that an operation is for learns of it. -/
def announce (e : Nat) (op : Operation) (n : Network σ) : Network σ :=
  match n.ends[e]? with
  | none => n
  | some x =>
    match op with
    | .accept _ | .handshake _ => if x.link.opener = .waiting then n.wake (.opener e) else n
    | .read => if x.link.reader = .idle then n.wake (.reader e) else n
    | .write .. | .ping _ | .pong _ | .close _ =>
      if x.link.writer = .idle then n.wake (.writer e) else n
    | .forceClose => n.wakeTasks e true

def issue (e : Nat) (op : Operation) (n : Network σ) : Network σ :=
  match n.ends[e]? with
  | none => n
  | some x => (n.stepLink e (x.link.issue op)).announce e op

def drop (e : Nat) (n : Network σ) : Network σ :=
  (n.modifyEnd e fun x => { x with link := x.link.drop }).wakeTasks e false

def watchFirst (e : Nat) (t : Task) (n : Network σ) : Network σ :=
  n.modifyEnd e fun x =>
    { x with
      onReadable := { x.onReadable with first := some t }
      onWritable := { x.onWritable with first := some t } }

def watchWriter (e : Nat) (n : Network σ) : Network σ :=
  n.modifyEnd e fun x =>
    { x with
      onReadable := { x.onReadable with writer := true }
      onWritable := { x.onWritable with writer := true } }

abbrev Move (σ : Type) := Bool × Network σ

def onward (n : Network σ) : Move σ := (true, n)

def waiting (n : Network σ) : Move σ := (false, n)

/-- The upgrade failed, and the stream is gone. -/
def failOpening (e : Nat) (error : TransportError) (n : Network σ) : Network σ :=
  let n := n.shutEnd e
  match n.ends[e]? with
  | some x => n.stepLink e (x.link.failEstablishing error)
  | none => n

def establish (e : Nat) (completion : Completion) (socket : Socket) (n : Network σ) : Network σ :=
  match n.ends[e]? with
  | none => n
  | some x =>
    let n := n.modifyEnd e fun x => { x with stage := none, socket := some socket }
    ((n.stepLink e (x.link.establish completion)).wake (.reader e)).wake (.writer e)

def beginOpening (e : Nat) (opener : Opener) (n : Network σ) : Network σ :=
  let enter (stage : Stage) := n.modifyEnd e fun x => { x with stage := some stage }
  match opener with
  | .working (.accept policy) => enter (.serve policy)
  | .working (.handshake request) =>
    match Stage.ask request with
    | .ok stage => enter stage
    | .error error => n.failOpening e error
  | .waiting | .over => n.shutEnd e

def advanceOpening (e : Nat) (stage : Stage) (n : Network σ) : Move σ :=
  match (n.watchFirst e (.opener e)).atPort e stage.advance with
  | none => waiting n
  | some (.accepted, n) => onward (n.establish e (.accepted (.ok ())) { isServer := true })
  | some (.joined response behind, n) =>
    onward (n.establish e (.handshaked (.ok response)) { isServer := false, incoming := behind })
  | some (.failed error, n) => onward (n.failOpening e error)
  | some (.blocked stage, n) =>
    let n := n.modifyEnd e fun x => { x with stage := some stage }
    if (n.ends[e]?).any (·.link.cancelled) then onward (n.failOpening e .aborted) else waiting n

def opener (e : Nat) (n : Network σ) : Move σ :=
  match n.ends[e]? with
  | none => waiting n
  | some x =>
    match x.link.takeRequest, x.stage with
    | some step, _ => onward ((n.stepLink e step).beginOpening e step.link.opener)
    | none, some stage => n.advanceOpening e stage
    | none, none => waiting n

/-- More frames than a stream holds. -/
def manyFrames : Nat := 1000000

/-- Reading goes on until a frame is there; control frames are handed on by the way. -/
def advanceReading (e : Nat) (link : Link) (n : Network σ) : Move σ :=
  let finish (outcome : Outcome Frame) (n : Network σ) : Move σ :=
    onward (n.stepLink e (link.finishRead outcome))
  if ((n.ends[e]?).bind (·.socket)).any (·.ended) then finish (.error .closed) n
  else
    match (n.watchFirst e (.reader e)).atSocket e (Desk.read manyFrames) with
    | none => waiting n
    | some (.ok (.frame frame), n) => finish (.ok frame) n
    | some (.ok (.control kind payload), n) => onward (n.complete e [.control kind payload])
    | some (.error (.failed error), n) =>
      let atEnd (s : Socket) : Socket := { s with ended := true }
      finish (.error error.toTransport)
        (n.modifyEnd e fun x => { x with socket := x.socket.map atEnd })
    | some (.error .blocked, n) => if link.cancelled then finish (.error .aborted) n else waiting n

def reader (e : Nat) (n : Network σ) : Move σ :=
  match n.ends[e]? with
  | none => waiting n
  | some x =>
    match x.link.takeRead, x.link.reader with
    | some step, _ => onward ((n.stepLink e step).release e)
    | none, .reading => n.advanceReading e x.link
    | none, _ => waiting n

/-- The frame that a sending goes out as; text has to be text. -/
def frameOf : Sending → Except TransportError WireFrame
  | .data .text data =>
    if (Bytes.text? data).isSome then .ok (.data .text data)
    else .error (.failure "text frame is not valid utf-8")
  | .data .binary data => .ok (.data .binary data)
  | .ping payload => .ok (.ping payload)
  | .pong payload => .ok (.pong payload)
  | .close reason => .ok (.close reason)

/-- A sending is framed once and then flushed until the stream has taken all of it. -/
def advanceWriting (e : Nat) (link : Link) (sending : Sending) (framed : Bool) (n : Network σ) :
    Move σ :=
  let finish (outcome : Outcome Unit) (n : Network σ) : Move σ :=
    onward ((n.stepLink e (link.finishSending outcome)).modifyEnd e ({ · with framed := false }))
  if framed then
    match (n.watchWriter e).atSocket e Desk.flush with
    | none => waiting n
    | some (.ok (), n) | some (.error (.failed .closedNormally), n) => finish (.ok ()) n
    | some (.error (.failed error), n) => finish (.error error.toTransport) n
    | some (.error .blocked, n) => if link.cancelled then finish (.error .aborted) n else waiting n
  else
    match frameOf sending with
    | .error error => finish (.error error) n
    | .ok frame =>
      match n.atSocket e (Desk.post frame) with
      | none => waiting n
      | some (.error (.failed error), n) => finish (.error error.toTransport) n
      | some (_, n) => onward (n.modifyEnd e ({ · with framed := true }))

def writer (e : Nat) (n : Network σ) : Move σ :=
  match n.ends[e]? with
  | none => waiting n
  | some x =>
    match x.link.takeSending, x.link.writer with
    | some step, _ => onward ((n.stepLink e step).release e)
    | none, .writing sending => n.advanceWriting e x.link sending x.framed
    | none, _ => waiting n

/-- What a session did reaches its end of the stream and the sessions it posted to. -/
def follow (i : SessionId) (n : Network σ) : Event → Network σ
  | .issued op => n.issue i op
  | .posted receiver _ => n.wake (.driver receiver)
  | _ => n

/-- Something happens in the hall to session `i`; its end goes when its driver stops. -/
def attend (i : SessionId) (f : Hall σ → Hall σ) (n : Network σ) : Network σ :=
  let seen := ((n.hall.seats[i]?).map (·.trace.length)).getD 0
  let n := { n with hall := f n.hall }
  match n.hall.seats[i]? with
  | none => n
  | some seat =>
    let n := (seat.trace.drop seen).foldl (follow i) n
    if seat.stopped then n.drop i else n

def driver (i : SessionId) (n : Network σ) : Move σ :=
  match n.hall.step i with
  | some hall => onward (n.attend i fun _ => hall)
  | none => waiting n

/-- Lets a task go on until it waits. -/
def poll (move : Network σ → Move σ) : (fuel : Nat) → Network σ → Network σ
  | 0, n => n
  | fuel + 1, n =>
    match move n with
    | (true, n) => poll move fuel n
    | (false, n) => n

/-- More than any task does before it waits. -/
def patience : Nat := 1000000

def runTask (t : Task) (n : Network σ) : Network σ :=
  match t with
  | .opener e => n.poll (opener e) patience
  | .reader e => n.poll (reader e) patience
  | .writer e => n.poll (writer e) patience
  | .driver i =>
    if (n.hall.seats[i]?).all (·.stopped) then n
    else (n.attend i (·.await i)).poll (driver i) patience

/-- Lets the tasks run until all of them wait. -/
def settle : (fuel : Nat) → Network σ → Network σ
  | 0, n => n
  | fuel + 1, n =>
    match n.queue with
    | [] => n
    | t :: queue => settle fuel (runTask t { n with queue })

def capacity : Nat := 65536

/-- Adds a stream; its ends are numbered from the number of ends so far. -/
def addStream (capacity : Nat) (n : Network σ) : Network σ :=
  { n with ends := n.ends ++ [{ inbound := { capacity } }, { inbound := { capacity } }] }

/-- A session takes the end with its number, is primed, and its driver starts. -/
def enter (session : Session) (handler : Handler σ) (listed : Bool) (handles : Nat)
    (actions : List Action) (n : Network σ) : Network σ :=
  let i := n.hall.seats.length
  let n := n.wake (.opener i)
  let hall := (n.hall.enter session handler listed).modifySeat i ({ · with handles })
  (attend i (·.prime i actions) { n with hall }).wake (.driver i)

def post (i : SessionId) (command : Command) (n : Network σ) : Bool × Network σ :=
  let (sent, hall) := n.hall.post i command
  (sent, wake (.driver i) { n with hall })

def broadcast (command : Command) (n : Network σ) : Nat × Network σ :=
  let ids := n.hall.reachable
  let (count, hall) := n.hall.broadcast command
  (count, ids.foldl (fun n i => n.wake (.driver i)) { n with hall })

def forget (n : Network σ) : Network σ :=
  { n with hall := n.hall.forget }

/-- The running sessions whose watchdogs are due, the earliest first. -/
def due (n : Network σ) : List SessionId :=
  let deadlines := n.hall.seats.zipIdx.filterMap fun (seat, i) =>
    if seat.stopped then none else seat.session.deadline.map fun d => (d, i)
  ((deadlines.filter fun (d, _) => d ≤ n.hall.now).mergeSort fun a b => a.1 ≤ b.1).map (·.2)

/-- The clock jumps ahead, and wakes the sessions that waited for it. -/
def advance (span : Nat) (n : Network σ) : Network σ :=
  let n := { n with hall := n.hall.advance span }
  n.due.foldl (fun n i => n.wake (.driver i)) n

end Network

end Parley

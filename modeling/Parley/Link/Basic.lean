import Parley.Transport

namespace Parley

/-- How a session sets its WebSocket up. -/
inductive Establishing
  | accept (policy : AcceptPolicy)
  | handshake (request : UpgradeRequest)
  deriving DecidableEq, Repr

namespace Establishing

def failed (error : TransportError) : Establishing → Completion
  | accept _ => .accepted (.error error)
  | handshake _ => .handshaked (.error error)

end Establishing

inductive Sending
  | data (kind : FrameKind) (data : Bytes)
  | ping (payload : Bytes)
  | pong (payload : Bytes)
  | close (reason : CloseReason)
  deriving DecidableEq, Repr

namespace Sending

def done : Sending → Completion
  | data _ b => .written (.ok b.length)
  | ping _ => .pinged (.ok ())
  | pong _ => .ponged (.ok ())
  | close _ => .closed (.ok ())

def failed (error : TransportError) : Sending → Completion
  | data .. => .written (.error error)
  | ping _ => .pinged (.error error)
  | pong _ => .ponged (.error error)
  | close _ => .closed (.error error)

end Sending

inductive Opener
  | waiting
  | working (request : Establishing)
  | over
  deriving DecidableEq, Repr

inductive Reader
  /-- The WebSocket is not established, or never was. -/
  | absent
  | idle
  | reading
  | over
  deriving DecidableEq, Repr

inductive Writer
  | absent
  | idle
  | writing (sending : Sending)
  | over
  deriving DecidableEq, Repr

/-- What three tasks do for one session: one establishes the WebSocket and is then over, one reads,
one writes. What they find on the stream is up to whoever lets them go on. -/
structure Link where
  requests : List Establishing := []
  reads : Nat := 0
  sendings : List Sending := []
  opener : Opener := .waiting
  reader : Reader := .absent
  writer : Writer := .absent
  cancelled : Bool := false
  /-- The session is gone and nothing more will be asked. -/
  dropped : Bool := false
  deriving DecidableEq, Repr

namespace Link

/-- A link with the completions that were given on the way there. -/
structure Step where
  link : Link
  completions : List Completion := []

def takesRequests (l : Link) : Bool := l.opener ≠ .over

def takesReads (l : Link) : Bool :=
  l.opener ≠ .over || l.reader = .idle || l.reader = .reading

def takesSendings (l : Link) : Bool :=
  l.opener ≠ .over ||
    match l.writer with
    | .idle | .writing _ => true
    | .absent | .over => false

/-- Both halves of an established WebSocket are given up. -/
def isReleased (l : Link) : Bool :=
  l.reader = .over && l.writer = .over

def request (r : Establishing) (l : Link) : Step :=
  if l.cancelled || !l.takesRequests then ⟨l, [r.failed .aborted]⟩
  else ⟨{ l with requests := l.requests ++ [r] }, []⟩

def read (l : Link) : Step :=
  if l.cancelled || !l.takesReads then ⟨l, [.read (.error .aborted)]⟩
  else ⟨{ l with reads := l.reads + 1 }, []⟩

def send (s : Sending) (l : Link) : Step :=
  if l.cancelled || !l.takesSendings then ⟨l, [s.failed .aborted]⟩
  else ⟨{ l with sendings := l.sendings ++ [s] }, []⟩

def issue (op : Operation) (l : Link) : Step :=
  match op with
  | .accept policy => l.request (.accept policy)
  | .handshake r => l.request (.handshake r)
  | .read => l.read
  | .write kind data => l.send (.data kind data)
  | .ping payload => l.send (.ping payload)
  | .pong payload => l.send (.pong payload)
  | .close reason => l.send (.close reason)
  | .forceClose => ⟨{ l with cancelled := true }, []⟩

def drop (l : Link) : Link := { l with dropped := true }

def abandon (l : Link) : Step :=
  ⟨{ l with opener := .over, requests := [], reads := 0, sendings := [] },
    l.requests.map (·.failed .aborted) ++ List.replicate l.reads (.read (.error .aborted)) ++
      l.sendings.map (·.failed .aborted)⟩

/-- The opener takes up the first request, or gives up if it is not wanted any more. -/
def takeRequest (l : Link) : Option Step :=
  match l.opener, l.requests with
  | .waiting, r :: rest => some ⟨{ l with opener := .working r, requests := rest }, []⟩
  | .waiting, [] => if l.dropped || l.cancelled then some l.abandon else none
  | _, _ => none

/-- The WebSocket is established: reader and writer take over. -/
def establish (completion : Completion) (l : Link) : Step :=
  ⟨{ l with opener := .over, requests := [], reader := .idle, writer := .idle }, [completion]⟩

def failEstablishing (error : TransportError) (l : Link) : Step :=
  match l.opener with
  | .working r =>
    let step := l.abandon
    { step with completions := r.failed error :: step.completions }
  | _ => ⟨l, []⟩

/-- The reader leaves, takes up a read, or waits. -/
def takeRead (l : Link) : Option Step :=
  match l.reader with
  | .idle =>
    if l.cancelled then
      some ⟨{ l with reader := .over, reads := 0 },
        List.replicate l.reads (.read (.error .aborted))⟩
    else if 0 < l.reads then some ⟨{ l with reader := .reading, reads := l.reads - 1 }, []⟩
    else if l.dropped then some ⟨{ l with reader := .over }, []⟩
    else none
  | _ => none

def finishRead (outcome : Outcome Frame) (l : Link) : Step :=
  match l.reader with
  | .reading => ⟨{ l with reader := .idle }, [.read outcome]⟩
  | _ => ⟨l, []⟩

/-- The writer leaves, takes up a sending, or waits. -/
def takeSending (l : Link) : Option Step :=
  match l.writer with
  | .idle =>
    if l.cancelled then
      some ⟨{ l with writer := .over, sendings := [] }, l.sendings.map (·.failed .aborted)⟩
    else
      match l.sendings with
      | s :: rest => some ⟨{ l with writer := .writing s, sendings := rest }, []⟩
      | [] => if l.dropped then some ⟨{ l with writer := .over }, []⟩ else none
  | _ => none

def finishSending (outcome : Outcome Unit) (l : Link) : Step :=
  match l.writer with
  | .writing s =>
    ⟨{ l with writer := .idle },
      [match outcome with
        | .ok () => s.done
        | .error e => s.failed e]⟩
  | _ => ⟨l, []⟩

end Link

end Parley

import Parley.Fault
import Parley.Wire.Pipe

namespace Parley.Wire

/-- How far the closing handshake has come. -/
inductive Closing
  | active
  | closedByUs
  | closedByPeer
  /-- The peer has answered our close frame. -/
  | acknowledged
  | terminated
  deriving DecidableEq, Repr

namespace Closing

def canRead : Closing → Bool
  | active | closedByUs => true
  | closedByPeer | acknowledged | terminated => false

end Closing

structure Socket where
  isServer : Bool
  closing : Closing := .active
  outgoing : Freight := []
  /-- Read and not yet taken apart. -/
  incoming : Freight := []
  /-- An answer to the peer that goes out with the next writing. -/
  reply : Option WireFrame := none
  /-- An answer is framed that has not gone out. -/
  unflushed : Bool := false
  /-- Reading is over, and its error has been reported. -/
  ended : Bool := false

structure Desk where
  socket : Socket
  port : Port

inductive Halt
  | blocked
  | failed (error : SocketError)

/-- Work at a desk that may stop short; what was done stays done. -/
abbrev Attempt := ExceptT Halt (StateM Desk)

inductive Arrival
  | frame (frame : Frame)
  | control (kind : ControlKind) (payload : Bytes)

namespace Desk

def fail {α : Type} (e : SocketError) : Attempt α := throw (.failed e)

def getSocket : Attempt Socket := do return (← get).socket

def modifySocket (f : Socket → Socket) : Attempt Unit :=
  modify fun d => { d with socket := f d.socket }

def writeOut : Attempt Unit := do
  let d ← get
  match d.port.send d.socket.outgoing with
  | (.complete, port) => set { d with port, socket := { d.socket with outgoing := [] } }
  | (.blocked rest, port) =>
    set { d with port, socket := { d.socket with outgoing := rest } }
    throw .blocked
  | (.broken, port) =>
    set { d with port }
    fail (.io "broken pipe")

/-- More than this is not held back. -/
def holdBack : Nat := 128 * 1024

def bufferFrame (f : WireFrame) : Attempt Unit := do
  modifySocket fun s => { s with outgoing := s.outgoing ++ [⟨.frame f, f.size (!s.isServer), true⟩] }
  if holdBack < (← getSocket).outgoing.size then writeOut

/-- Frames the waiting answer. A server that may not read any more is finished once all is
written. -/
def settleReply : Attempt Unit := do
  match (← getSocket).reply with
  | none => pure ()
  | some f =>
    modifySocket fun s => { s with reply := none }
    bufferFrame f
  let s ← getSocket
  if s.isServer && !s.closing.canRead then
    writeOut
    modifySocket fun s => { s with closing := .terminated }
    fail .closedNormally

def flush : Attempt Unit := do
  settleReply
  writeOut
  modifySocket fun s => { s with unflushed := false }

/-- Leaves an answer to be written, unless a close frame waits already. -/
def answer (f : WireFrame) : Attempt Unit :=
  modifySocket fun s =>
    match s.reply with
    | some (.close _) => s
    | _ => { s with reply := some f }

/-- Frames a message that the owner of the socket sends. -/
def post (f : WireFrame) : Attempt Unit := do
  let s ← getSocket
  if s.closing = .terminated then fail .alreadyClosed
  if s.closing ≠ .active then fail .sendAfterClosing
  match f with
  | .pong _ =>
    answer f
    settleReply
  | .close _ =>
    modifySocket fun s => { s with closing := .closedByUs }
    bufferFrame f
    settleReply
    flush
  | _ =>
    let due := s.reply.isSome || s.unflushed
    bufferFrame f
    settleReply
    if due then flush

/-- The codes that a close frame is returned with; for any other code the peer is told off. -/
def isAllowedCode (code : UInt16) : Bool :=
  (1000 ≤ code && code ≤ 1003) || (1007 ≤ code && code ≤ 1013) || (3000 ≤ code && code ≤ 4999)

def closeReply (reason : CloseReason) : CloseReason :=
  if isAllowedCode reason.code then reason else ⟨1002, "Protocol violation"⟩

def maxControl : Nat := 125

def take (f : WireFrame) : Attempt (Option Arrival) := do
  let s ← getSocket
  if !s.closing.canRead then fail .receivedAfterClosing
  if f.isControl && maxControl < f.payloadSize then fail .controlTooBig
  match f with
  | .data kind payload => return some (.frame ⟨kind, payload⟩)
  | .ping payload =>
    if s.closing = .active then answer (.pong payload)
    return some (.control .ping payload)
  | .pong payload => return some (.control .pong payload)
  | .close reason =>
    let shown := some (Arrival.control .close (Bytes.ofString reason.text))
    match s.closing with
    | .active =>
      modifySocket fun s => { s with closing := .closedByPeer }
      answer (.close (closeReply reason))
      return shown
    | .closedByUs =>
      modifySocket fun s => { s with closing := .acknowledged }
      return shown
    | _ => return none

/-- The next frame of the peer; nothing at the end of the stream. Pieces are read until a frame
is whole. -/
def nextFrame : (fuel : Nat) → Attempt (Option WireFrame)
  | 0 => throw .blocked
  | fuel + 1 => do
    let d ← get
    match d.socket.incoming.unload with
    | some (.frame f, rest) =>
      modifySocket fun s => { s with incoming := rest }
      return some f
    | some (_, rest) =>
      modifySocket fun s => { s with incoming := rest }
      nextFrame fuel
    | none =>
      match d.port.receive holdBack with
      | (.ended, _) => return none
      | (.blocked, port) =>
        set { d with port }
        throw .blocked
      | (.arrived piece, port) =>
        set { socket := { d.socket with incoming := d.socket.incoming ++ piece }, port : Desk }
        nextFrame fuel

/-- Reads until there is something to hand on. What waits to be written goes out first, as far as
there is room. -/
def read : (fuel : Nat) → Attempt Arrival
  | 0 => throw .blocked
  | fuel + 1 => do
    let s ← getSocket
    if s.closing = .terminated then fail .alreadyClosed
    if s.reply.isSome || s.unflushed then
      try flush catch
        | .blocked => modifySocket fun s => { s with unflushed := true }
        | .failed e => fail e
    else if s.isServer && !s.closing.canRead then
      modifySocket fun s => { s with closing := .terminated }
      fail .closedNormally
    let d ← get
    match ← nextFrame (d.port.inbound.held.length + d.socket.incoming.length + 3) with
    | none =>
      let s ← getSocket
      modifySocket fun s => { s with closing := .terminated }
      fail (match s.closing with
        | .closedByPeer | .acknowledged => .closedNormally
        | _ => .resetWithoutClosing)
    | some f =>
      match ← take f with
      | some arrival => return arrival
      | none => read fuel

end Desk

end Parley.Wire

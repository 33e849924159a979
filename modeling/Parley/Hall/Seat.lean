import Parley.Session.Turn

namespace Parley

inductive Wake
  | completion (completion : Completion)
  /-- No completion can come any more. -/
  | lineLost
  | command (command : Command)
  /-- No command can come any more. -/
  | abandoned
  | timer

structure Seat (σ : Type) where
  session : Session
  handler : Handler σ
  /-- Completions to be fed, the oldest first. -/
  inbox : List Completion := []
  lineUp : Bool := true
  /-- Commands to be applied, the oldest first. -/
  commands : List Command := []
  /-- The driver keeps the session alive for what is outstanding. -/
  pinned : Bool := true
  handles : Nat := 0
  listed : Bool := true
  stopped : Bool := false
  /-- What happened and has not been looked at. -/
  trace : List Event := []

namespace Seat

variable {σ : Type}

/-- Something can still post commands to the session. -/
def isHeld (shared : σ) (seat : Seat σ) : Bool :=
  seat.pinned || 0 < seat.handles || seat.handler.holds shared seat.session.id

/-- The pin as the driver sets it before it waits. -/
def repin (shared : σ) (seat : Seat σ) : Seat σ :=
  { seat with pinned := 0 < seat.session.pending && seat.isHeld shared }

def isDone (seat : Seat σ) : Bool :=
  seat.session.pending = 0 && seat.session.isClosed

/-- Everything that may be fed to the session now; a driver picks one. -/
def ready (now : Nat) (shared : σ) (seat : Seat σ) : List Wake :=
  let completion := match seat.inbox with
    | c :: _ => [.completion c]
    | [] => if seat.lineUp then [] else [.lineLost]
  let command := match seat.commands with
    | c :: _ => [.command c]
    | [] => if seat.isHeld shared then [] else [.abandoned]
  let timer := match seat.session.deadline with
    | some deadline => if deadline ≤ now then [.timer] else []
    | none => []
  completion ++ command ++ timer

/-- Takes what is about to be fed out of its queue. -/
def take (wake : Wake) (seat : Seat σ) : Seat σ :=
  match wake with
  | .completion _ => { seat with inbox := seat.inbox.tail }
  | .command _ => { seat with commands := seat.commands.tail }
  | .lineLost | .abandoned | .timer => seat

def feed (completion : Completion) (seat : Seat σ) : Seat σ :=
  if seat.stopped then seat else { seat with inbox := seat.inbox ++ [completion] }

def post (command : Command) (seat : Seat σ) : Seat σ :=
  if seat.stopped then seat else { seat with commands := seat.commands ++ [command] }

/-- The driver is gone, and with it all that was queued. -/
def vacate (seat : Seat σ) : Seat σ :=
  { seat with inbox := [], commands := [], pinned := false, listed := false, stopped := true }

def forget (seat : Seat σ) : Seat σ :=
  { seat with trace := [] }

end Seat

def Wake.turn {σ : Type} (host : Host σ) (wake : Wake) (t : Turn σ) : Turn σ :=
  match wake with
  | .completion c => t.perform host (.complete c)
  | .lineLost => t.perform host .transportLost
  | .command c => t.perform host (.apply c)
  | .abandoned => t
  | .timer => t.perform host (.fireTimer none)

def Wake.isLast : Wake → Bool
  | .lineLost | .abandoned => true
  | .completion _ | .command _ | .timer => false

end Parley

import Parley.Hall.Seat

namespace Parley

/-- Sessions that run side by side on one clock and share what their handlers keep. The registry is
the list of seats that are `listed`; it holds nobody in place. -/
structure Hall (σ : Type) where
  shared : σ
  now : Nat := 0
  /-- The session with id `i` has the seat at position `i`. -/
  seats : List (Seat σ) := []
  /-- How deep hooks may nest in a hook. -/
  nesting : Nat := Handler.nesting

namespace Hall

variable {σ : Type}

def modifySeat (i : SessionId) (f : Seat σ → Seat σ) (h : Hall σ) : Hall σ :=
  { h with seats := h.seats.modify i f }

/-- Hands over what a turn posted to other sessions. -/
def deliver (h : Hall σ) : Event → Hall σ
  | .posted receiver command => h.modifySeat receiver (·.post command)
  | _ => h

/-- Lets a session take a turn, of which the others learn what it posted to them. -/
def act (i : SessionId) (f : Host σ → Turn σ → Turn σ) (h : Hall σ) : Hall σ :=
  match h.seats[i]? with
  | none => h
  | some seat =>
    let session := { seat.session with reachable := seat.isHeld h.shared }
    let t := f (seat.handler.host (h.nesting + 1)) { now := h.now, session, shared := h.shared }
    let h := { h with shared := t.shared }
    t.events.foldl deliver
      (h.modifySeat i fun seat => { seat with session := t.session, trace := seat.trace ++ t.events })

/-- A driver stops: the handler hears of it and the registry forgets the session. -/
def stop (i : SessionId) (h : Hall σ) : Hall σ :=
  (h.act i fun host t => t.perform host .finish).modifySeat i (·.vacate)

/-- A driver goes back to waiting: it sets its pin, and stops if its session is done. -/
def await (i : SessionId) (h : Hall σ) : Hall σ :=
  let h := h.modifySeat i (·.repin h.shared)
  if (h.seats[i]?).any (·.isDone) then h.stop i else h

/-- A driver feeds this wake to its session, and stops if it was the last. -/
def serve (i : SessionId) (wake : Wake) (h : Hall σ) : Hall σ :=
  let h := (h.modifySeat i (·.take wake)).act i fun host t => wake.turn host t
  if wake.isLast then h.stop i else h.await i

/-- One round of a driver: it feeds what `choose` picks of all that is ready, if anything is. -/
def round (choose : List Wake → Option Wake) (i : SessionId) (h : Hall σ) : Option (Hall σ) :=
  match h.seats[i]? with
  | none => none
  | some seat =>
    if seat.stopped then none
    else (choose (seat.ready h.now h.shared)).map (h.serve i ·)

/-- One round that feeds completions first, then commands, then the timer. -/
def step (i : SessionId) (h : Hall σ) : Option (Hall σ) :=
  h.round List.head? i

/-- Lets one driver go on until it waits, for at most `fuel` rounds. -/
def run : (fuel : Nat) → SessionId → Hall σ → Hall σ
  | 0, _, h => h
  | fuel + 1, i, h =>
    match h.step i with
    | some h => run fuel i h
    | none => h

/-- Lets the drivers go on, the first that can at a time, until all of them wait. -/
def settle : (fuel : Nat) → Hall σ → Hall σ
  | 0, h => h
  | fuel + 1, h =>
    match (List.range h.seats.length).findSome? h.step with
    | some h => settle fuel h
    | none => h

/-- More rounds than any exchange takes that comes to rest at all. -/
def patience : Nat := 100000

/-- Seats a new session, whose id is the number of seats so far. -/
def enter (session : Session) (handler : Handler σ) (listed : Bool) (h : Hall σ) : Hall σ :=
  let session := { session with id := h.seats.length }
  { h with seats := h.seats ++ [{ session, handler, listed }] }

/-- Carries out actions on a session from outside, before its driver runs. -/
def prime (i : SessionId) (actions : List Action) (h : Hall σ) : Hall σ :=
  h.act i fun host t => t.performAll host actions

def isReachable (h : Hall σ) (i : SessionId) : Bool :=
  match h.seats[i]? with
  | some seat => seat.listed && seat.isHeld h.shared
  | none => false

/-- The sessions that the registry gives handles to. -/
def reachable (h : Hall σ) : List SessionId :=
  (List.range h.seats.length).filter h.isReachable

def registered (h : Hall σ) : Nat :=
  h.seats.countP (·.listed)

/-- Posts a command through a handle; refused once the driver has stopped. -/
def post (i : SessionId) (command : Command) (h : Hall σ) : Bool × Hall σ :=
  let live := match h.seats[i]? with
    | some seat => !seat.stopped
    | none => false
  (live, h.modifySeat i (·.post command))

def broadcast (command : Command) (h : Hall σ) : Nat × Hall σ :=
  let ids := h.reachable
  (ids.length, ids.foldl (fun h i => h.modifySeat i (·.post command)) h)

def forget (h : Hall σ) : Hall σ :=
  { h with seats := h.seats.map (·.forget) }

def advance (span : Nat) (h : Hall σ) : Hall σ :=
  { h with now := h.now + span }

end Hall

end Parley

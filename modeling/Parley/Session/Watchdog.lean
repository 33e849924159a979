import Parley.Session.Action

namespace Parley

inductive TimerAction
  /-- Probe the peer, then force the connection closed if it stays silent. -/
  | probe
  /-- Run these actions once instead. -/
  | custom (body : List Action)
  /-- The second stage of a probe. -/
  | forceClose

structure Watchdog where
  /-- No expiry means infinitely far away. -/
  expiry : Option Nat := none
  wait : Option TimerAction := none

namespace Watchdog

def new : Watchdog := {}

def arm (expiry : Nat) (dog : Watchdog) : Watchdog :=
  { dog with expiry := some expiry }

def launch (action : TimerAction) (dog : Watchdog) : Watchdog :=
  { dog with wait := some action }

def cancel (dog : Watchdog) : Watchdog :=
  { dog with wait := none }

def isWaiting (dog : Watchdog) : Bool :=
  dog.wait.isSome

/-- The idle window has passed already and only the second stage is left. -/
def isEscalated (dog : Watchdog) : Bool :=
  match dog.wait with
  | some .forceClose => true
  | _ => false

/-- When the watchdog is next due, if ever. -/
def deadline (dog : Watchdog) : Option Nat :=
  if dog.isWaiting then dog.expiry else none

/-- Takes the pending wait if the deadline has passed by `now`. -/
def poll (now : Nat) (dog : Watchdog) : Option TimerAction × Watchdog :=
  match dog.expiry with
  | some expiry => if expiry ≤ now then (dog.wait, dog.cancel) else (none, dog)
  | none => (none, dog)

end Watchdog

end Parley

import Parley.Error

namespace Parley

inductive Phase
  /-- A stream is at hand, nothing is issued yet. -/
  | created
  | establishing
  | established (since : Nat)
  /-- A close frame is sent and not yet acknowledged. -/
  | closing
  | closed
  deriving DecidableEq, Repr

namespace Phase

def name : Phase → String
  | created => "Created"
  | establishing => "Establishing"
  | established _ => "Established"
  | closing => "Closing"
  | closed => "Closed"

/-- The upgrade has completed and the session is not over; a closing session counts. -/
def isEstablished : Phase → Bool
  | established _ | closing => true
  | _ => false

def isClosed : Phase → Bool
  | closed => true
  | _ => false

/-- Frames may be sent: established and not closing. -/
def canSend : Phase → Bool
  | established _ => true
  | _ => false

def uptime (now : Nat) : Phase → Option Nat
  | established since => some (now - since)
  | _ => none

def beginEstablish : Phase → Except PhaseError Phase
  | created => .ok establishing
  | _ => .error .upgradeIssued

def completeEstablish (now : Nat) : Phase → Except PhaseError Phase
  | establishing => .ok (established now)
  | _ => .error .notEstablishing

/-- A repeated close is allowed. -/
def beginClose : Phase → Except PhaseError Phase
  | established _ | closing => .ok closing
  | _ => .error .notEstablished

theorem canSend_iff {p : Phase} : p.canSend = true ↔ ∃ since, p = established since := by
  cases p <;> simp [canSend]

theorem beginEstablish_ok {p q : Phase} (h : p.beginEstablish = .ok q) :
    p = created ∧ q = establishing := by
  cases p <;> cases h
  exact ⟨rfl, rfl⟩

theorem beginClose_ok {p q : Phase} (h : p.beginClose = .ok q) : q = closing := by
  cases p <;> cases h <;> rfl

end Phase

end Parley

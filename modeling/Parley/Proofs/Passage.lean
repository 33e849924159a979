import Parley.Proofs.Course

namespace Parley

/-- The operation that starts the upgrade in a role. -/
def Operation.opens : Role → Operation → Bool
  | .server, .accept _ => true
  | .client .., .handshake _ => true
  | _, _ => false

/-- Operations that need a complete upgrade and end nothing. -/
def Operation.isFrame : Operation → Bool
  | .read | .write .. | .ping _ | .pong _ => true
  | _ => false

def Completion.upgrades : Completion → Bool
  | .accepted (.ok _) | .handshaked (.ok _) => true
  | _ => false

/-- The part of a session that says how far it is. -/
structure Life where
  role : Role
  phase : Phase
  forced : Bool

/-- The ways that a step may go, with what it issues. -/
inductive Passage : Life → List Operation → Life → Prop
  | stays (l : Life) : Passage l [] l
  | opens {role : Role} {forced : Bool} (op : Operation) (h : op.opens role = true) :
    Passage ⟨role, .created, forced⟩ [op] ⟨role, .establishing, forced⟩
  | sends {role : Role} {since : Nat} {forced : Bool} (op : Operation) (h : op.isFrame = true) :
    Passage ⟨role, .established since, forced⟩ [op] ⟨role, .established since, forced⟩
  | closes {role : Role} {since : Nat} {forced : Bool} (reason : CloseReason) :
    Passage ⟨role, .established since, forced⟩ [.close reason] ⟨role, .closing, forced⟩
  | ends (l : Life) : Passage l [] { l with phase := .closed }
  | drops {role : Role} {phase : Phase} :
    Passage ⟨role, phase, false⟩ [.forceClose] ⟨role, .closed, true⟩

namespace Session

def life (s : Session) : Life := ⟨s.role, s.phase, s.forced⟩

/-- The session with its upgrade complete, if that is what a completion completes. -/
def upgraded (now : Nat) (c : Completion) (s : Session) : Session :=
  if c.upgrades ∧ s.phase = .establishing then { s with phase := .established now } else s

/-- A step that goes one of the ways, and enters no hook. -/
structure Step.Passes (s : Session) (x : Step) : Prop where
  passage : Passage s.life (operations x.notes) x.session.life
  quiet : ∀ hook, .entered hook ∉ x.events

namespace Step.Passes

theorem of_life {s s' : Session} {x : Step} (h : x.Passes s) (he : s'.life = s.life) :
    x.Passes s' :=
  ⟨he ▸ h.passage, h.quiet⟩

/-- What is left behind may differ in all that is not its life. -/
theorem leave {s s' : Session} {x : Step} (h : x.Passes s) (he : s'.life = x.session.life) :
    Step.Passes s { x with session := s' } :=
  ⟨he ▸ h.passage, h.quiet⟩

theorem stay {s s' : Session} (h : s'.life = s.life) : s'.stay.Passes s := by
  refine ⟨?_, by simp⟩
  rw [stay_session, h]
  exact .stays _

theorem issue {s s' : Session} {op : Operation} (h : Passage s.life [op] s'.life) :
    (s'.issue op).Passes s :=
  ⟨h, by simp⟩

theorem send {s s' : Session} {op : Operation} (hc : s.phase.canSend = true)
    (hop : op.isFrame = true) (h : s'.life = s.life) : (s'.issue op).Passes s := by
  obtain ⟨since, hp⟩ := Phase.canSend_iff.mp hc
  refine issue ?_
  rw [h, life, hp]
  exact .sends op hop

theorem terminate (s : Session) : s.terminate.stay.Passes s :=
  ⟨.ends s.life, by simp⟩

theorem report {s : Session} {x : Step} (h : x.Passes s) (w : List Warning) :
    Step.Passes s { x with events := w.map .warned ++ x.events } := by
  have same : operations (Step.notes { x with events := w.map .warned ++ x.events }) =
      operations x.notes := by
    simp [operations, notes, Note.operation?]
  exact ⟨by rw [same]; exact h.passage, by simpa using h.quiet⟩

end Step.Passes

theorem accept_passes (now : Nat) (policy : AcceptPolicy) (s : Session) :
    (s.accept now policy).Passes s := by
  unfold accept
  split
  · rename_i phase hr hp
    obtain ⟨hc, rfl⟩ := Phase.beginEstablish_ok hp
    refine .issue ?_
    simp only [life, keepalive_eq, hr, hc]
    exact .opens _ rfl
  · exact .stay rfl

theorem handshake_passes (now : Nat) (target : String) (s : Session) :
    (s.handshake now target).Passes s := by
  unfold handshake
  split
  · rename_i hr hp
    obtain ⟨hc, rfl⟩ := Phase.beginEstablish_ok hp
    refine .issue ?_
    simp only [life, keepalive_eq, hr, hc]
    exact .opens _ rfl
  · exact .stay rfl

theorem read_passes (now : Nat) (s : Session) : (s.read now).Passes s := by
  unfold read
  split
  · rename_i h
    simp only [Bool.and_eq_true] at h
    exact .send h.2 rfl rfl
  · exact .stay rfl

theorem flush_passes (nextRead : Bool) (s : Session) : (s.flush nextRead).Passes s := by
  unfold flush
  split
  · rename_i h
    simp only [Bool.and_eq_true] at h
    exact .send h.2 rfl rfl
  · exact .stay rfl

theorem push_passes (data : Bytes) (s : Session) : (s.push data).Passes s :=
  (flush_passes true _).of_life rfl

theorem ping_passes (now : Nat) (payload : Bytes) (s : Session) :
    (s.ping now payload).Passes s := by
  unfold ping
  split
  · rename_i h
    exact .send h rfl rfl
  · exact .stay rfl

theorem pong_passes (now : Nat) (payload : Bytes) (s : Session) :
    (s.pong now payload).Passes s := by
  unfold pong
  split
  · rename_i h
    exact .send h rfl rfl
  · exact .stay rfl

theorem close_passes (now : Nat) (reason : CloseReason) (s : Session) :
    (s.close now reason).Passes s := by
  unfold close
  split
  · rename_i h hp
    obtain ⟨since, hc⟩ := Phase.canSend_iff.mp h
    obtain rfl := Phase.beginClose_ok hp
    refine .issue ?_
    simp only [life, armIdle, hc]
    exact .closes reason
  · exact .stay rfl

theorem forceClose_passes (s : Session) : s.forceClose.Passes s := by
  unfold forceClose
  split
  · exact .terminate s
  · rename_i h
    have hf : s.forced = false := by simpa using h
    refine .issue ?_
    simp only [life, terminate, hf]
    exact .drops

theorem fail_passes (op : String) (error : TransportError) (s : Session) :
    (s.fail op error).Passes s := by
  have step : (if error = .aborted then s.terminate.stay else s.forceClose).Passes s := by
    split
    · exact .terminate s
    · exact s.forceClose_passes
  by_cases h : (s.isClosed || error.isSilent) = true
  · simp only [fail, if_pos h]
    exact step.report []
  · simp only [fail, if_neg h]
    exact step.report [.sessionFailed op error]

theorem advance_passes (now : Nat) (nextRead : Bool) (s : Session) :
    (s.advance now nextRead).Passes s := by
  unfold advance
  split
  · exact .stay rfl
  · split
    · exact s.flush_passes nextRead
    · split
      · exact s.read_passes now
      · exact .stay rfl

theorem fire_passes (now instant : Nat) (s : Session) : (s.fire now instant).Passes s := by
  have fires := s.fires now instant
  generalize s.fire now instant = x at fires ⊢
  cases fires with
  | rests s' h => exact .stay (congrArg life h :)
  | drops s' h => exact s'.forceClose_passes.of_life (congrArg life h :).symm
  | pings s' s'' h h' =>
    exact .of_life (.leave (s'.ping_passes now []) (congrArg life h' :)) (congrArg life h :).symm

theorem received_life (c : Completion) (s : Session) : (s.received c).life = s.life := by
  cases c <;> rfl

theorem absorb_passes (now : Nat) (c : Completion) (s : Session) :
    (s.absorb now c).Passes (s.upgraded now c) := by
  rcases c with (e | _) | (e | response) | (e | frame) | (e | n) | (e | _) | (e | _) | (e | _) |
    ⟨kind, payload⟩
  case accepted.error | handshaked.error | read.error | written.error | pinged.error |
      ponged.error | closed.error =>
    exact (fail_passes _ e _).of_life (by simp [upgraded, Completion.upgrades, received_life])
  case accepted.ok =>
    unfold absorb
    dsimp only
    split
    · rename_i hp
      exact (advance_passes now true _).of_life
        (by simp [upgraded, Completion.upgrades, life, received, hp])
    · exact .stay (by simp_all [upgraded, received_life])
  case handshaked.ok =>
    unfold absorb
    dsimp only
    split
    · rename_i hp
      exact (flush_passes true _).of_life
        (by simp [upgraded, Completion.upgrades, life, received, keepalive_eq, hp])
    · exact .stay (by simp_all [upgraded, received_life])
  case read.ok | control => exact .stay (by simp [upgraded, Completion.upgrades, received, life])
  case written.ok =>
    exact (advance_passes now _ _).of_life (by simp [upgraded, Completion.upgrades, received, life])
  case pinged.ok | ponged.ok =>
    exact (read_passes now _).of_life (by simp [upgraded, Completion.upgrades, received, life])
  case closed.ok =>
    unfold absorb
    dsimp only
    split <;> exact ⟨.ends s.life, by simp⟩

theorem asking_life {now : Nat} {c : Completion} {s : Session} {hook : Bytes → Hook}
    (h : s.asks c = some hook) : (s.asking now c).lend.life = (s.upgraded now c).life := by
  unfold asks at h
  split at h
  · split at h
    · rename_i hp
      simp [asking, lend, life, received, upgraded, Completion.upgrades, hp]
    · cases h
  · split at h
    · rename_i hp
      simp [asking, lend, life, received, upgraded, Completion.upgrades, keepalive_eq, hp]
    · cases h
  · simp [asking, lend, life, received, upgraded, Completion.upgrades, peerActive]
  · cases h

theorem resume_passes (now : Nat) (c : Completion) (draft : Draft) (s : Session) :
    (s.resume now c draft).Passes s := by
  unfold resume
  split
  · exact s.advance_passes now true
  · exact (flush_passes _ _).of_life rfl
  · refine (advance_passes now _ _).of_life ?_
    split <;> rfl
  · exact .stay rfl

end Session

theorem Command.effect_passes (now : Nat) (s : Session) (c : Command) :
    (c.effect now s).Passes s := by
  cases c with
  | push data => exact s.push_passes data
  | read => exact s.read_passes now
  | ping payload => exact s.ping_passes now payload
  | close reason => exact s.close_passes now reason
  | run => exact .stay rfl

theorem Action.effect_passes (now : Nat) (s : Session) (a : Action)
    (h : ∀ c, a ≠ .complete c) : (a.effect now s).Passes s := by
  cases a with
  | accept policy => exact s.accept_passes now policy
  | handshake target => exact s.handshake_passes now target
  | read => exact s.read_passes now
  | write => exact s.flush_passes true
  | push data => exact s.push_passes data
  | ping payload => exact s.ping_passes now payload
  | pong payload => exact s.pong_passes now payload
  | close reason => exact s.close_passes now reason
  | forceClose => exact s.forceClose_passes
  | setFrameMode mode => cases mode <;> exact .stay rfl
  | keepalive => exact .stay (by simp [Session.life, Session.keepalive_eq])
  | fireTimer instant? => exact s.fire_passes now _
  | apply c => exact c.effect_passes now s
  | complete c => exact absurd rfl (h c)
  | transportLost => exact ⟨.ends s.life, by simp [Action.effect]⟩
  | post | warn | deliver | leaveMark | inspect => exact ⟨.stays _, by simp [Action.effect]⟩
  | _ => exact .stay rfl

end Parley

import Parley.Proofs.Course

namespace Parley

/-- The operation that a completion says has failed, by the name it is reported under. -/
def Completion.failure? : Completion → Option (String × TransportError)
  | .accepted (.error e) => some ("accept", e)
  | .handshaked (.error e) => some ("handshake", e)
  | .read (.error e) => some ("read", e)
  | .written (.error e) => some ("write", e)
  | .pinged (.error e) => some ("ping", e)
  | .ponged (.error e) => some ("pong", e)
  | .closed (.error e) => some ("close", e)
  | _ => none

namespace Session

/-- How a session writes: its mode, the type at hand, whether a hook holds it back, and what. -/
def pen (s : Session) : FrameMode × FrameKind × Bool × Bytes :=
  (s.frameMode, s.outgoing, s.inHook, s.output)

/-- A step that tells of operations only. A hook that the upgrade would have asked, had it been
asked in time, holds nothing back. -/
structure Step.Tells (s : Session) (x : Step) : Prop where
  only : ∀ event ∈ x.events, ∃ op, event = .issued op
  writes : ∀ kind data, .issued (.write kind data) ∈ x.events →
    kind = s.outgoing ∧ data = s.output ∧ (s.inHook = false ∨ s.phase = .establishing)
  output : x.session.output = s.output ∨ x.session.output = []
  mode : x.session.frameMode = s.frameMode
  kind : x.session.outgoing = s.outgoing
  held : x.session.inHook = s.inHook ∨ s.phase = .establishing

namespace Step.Tells

variable {s s' : Session} {x : Step}

theorem pens (h : s'.pen = s.pen) :
    s'.frameMode = s.frameMode ∧ s'.outgoing = s.outgoing ∧ s'.inHook = s.inHook ∧
      s'.output = s.output := by
  simpa [pen] using h

theorem of_pen (h : x.Tells s) (hp : s'.pen = s.pen) (hq : s.phase = s'.phase) : x.Tells s' := by
  obtain ⟨mode, kind, hook, output⟩ := pens hp
  exact ⟨h.only, by rw [kind, output, hook, ← hq]; exact h.writes, by rw [output]; exact h.output,
    h.mode.trans mode.symm, h.kind.trans kind.symm, by rw [hook, ← hq]; exact h.held⟩

theorem leave (h : x.Tells s) (hp : s'.pen = x.session.pen) :
    Step.Tells s { x with session := s' } := by
  obtain ⟨mode, kind, hook, output⟩ := pens hp
  exact ⟨h.only, h.writes, by rw [output]; exact h.output, mode.trans h.mode, kind.trans h.kind,
    by rw [hook]; exact h.held⟩

theorem stay (hp : s'.pen = s.pen) : s'.stay.Tells s := by
  obtain ⟨mode, kind, hook, output⟩ := pens hp
  exact ⟨by simp, by simp, .inl output, mode, kind, .inl hook⟩

theorem issue {op : Operation} (hp : s'.pen = s.pen) (ho : ∀ kind data, op ≠ .write kind data) :
    (s'.issue op).Tells s := by
  obtain ⟨mode, kind, hook, output⟩ := pens hp
  refine ⟨by simp, fun k d hw => ?_, .inl output, mode, kind, .inl hook⟩
  exact absurd (by simpa using hw) (ho k d).symm

end Step.Tells

theorem keepalive_pen (now : Nat) (s : Session) : (s.keepalive now).pen = s.pen := by
  rw [keepalive_eq]
  rfl

theorem accept_tells (now : Nat) (policy : AcceptPolicy) (s : Session) :
    (s.accept now policy).Tells s := by
  unfold accept
  split
  · exact .issue (by simp [pen, keepalive_eq]) nofun
  · exact .stay rfl

theorem handshake_tells (now : Nat) (target : String) (s : Session) :
    (s.handshake now target).Tells s := by
  unfold handshake
  split
  · exact .issue (by simp [pen, keepalive_eq]) nofun
  · exact .stay rfl

theorem read_tells (now : Nat) (s : Session) : (s.read now).Tells s := by
  unfold read
  split
  · exact .issue rfl nofun
  · exact .stay rfl

theorem flush_tells (nextRead : Bool) (s : Session) : (s.flush nextRead).Tells s := by
  unfold flush
  split
  · rename_i h
    simp only [Bool.and_eq_true, Bool.not_eq_true'] at h
    exact ⟨by simp, by simp +contextual [h.1.1.1], .inr rfl, rfl, rfl, .inl rfl⟩
  · exact .stay rfl

theorem ping_tells (now : Nat) (payload : Bytes) (s : Session) :
    (s.ping now payload).Tells s := by
  unfold ping
  split
  · exact .issue rfl nofun
  · exact .stay rfl

theorem pong_tells (now : Nat) (payload : Bytes) (s : Session) :
    (s.pong now payload).Tells s := by
  unfold pong
  split
  · exact .issue rfl nofun
  · exact .stay rfl

theorem close_tells (now : Nat) (reason : CloseReason) (s : Session) :
    (s.close now reason).Tells s := by
  unfold close
  split
  · exact .issue rfl nofun
  · exact .stay rfl

theorem terminate_tells (s : Session) : s.terminate.stay.Tells s :=
  ⟨by simp, by simp, .inr rfl, rfl, rfl, .inl rfl⟩

theorem forceClose_tells (s : Session) : s.forceClose.Tells s := by
  unfold forceClose
  split
  · exact s.terminate_tells
  · exact ⟨by simp, by simp, .inr rfl, rfl, rfl, .inl rfl⟩

theorem advance_tells (now : Nat) (nextRead : Bool) (s : Session) :
    (s.advance now nextRead).Tells s := by
  unfold advance
  split
  · exact .stay rfl
  · split
    · exact s.flush_tells nextRead
    · split
      · exact s.read_tells now
      · exact .stay rfl

theorem fire_tells (now instant : Nat) (s : Session) : (s.fire now instant).Tells s := by
  have fires := s.fires now instant
  generalize s.fire now instant = x at fires ⊢
  cases fires with
  | rests s' h => exact .stay (congrArg pen h :)
  | drops s' h =>
    exact s'.forceClose_tells.of_pen (congrArg pen h :).symm (congrArg (·.phase) h :)
  | pings s' s'' h h' =>
    exact .of_pen (.leave (s'.ping_tells now []) (congrArg pen h' :)) (congrArg pen h :).symm
      (congrArg (·.phase) h :)

/-- What a failure does to a session, less its report. -/
def stopped (error : TransportError) (s : Session) : Step :=
  if error = .aborted then s.terminate.stay else s.forceClose

/-- What is told of a failure. -/
def complaint (op : String) (error : TransportError) (s : Session) : List Event :=
  if s.isClosed || error.isSilent then [] else [.warned (.sessionFailed op error)]

theorem fail_eq (op : String) (error : TransportError) (s : Session) :
    s.fail op error =
      { s.stopped error with events := s.complaint op error ++ (s.stopped error).events } :=
  rfl

theorem stopped_tells (error : TransportError) (s : Session) : (s.stopped error).Tells s := by
  unfold stopped
  split
  · exact s.terminate_tells
  · exact s.forceClose_tells

theorem absorb_failure {c : Completion} {op : String} {error : TransportError}
    (hc : c.failure? = some (op, error)) (now : Nat) (s : Session) :
    s.absorb now c = (s.received c).fail op error := by
  rcases c with (e | _) | (e | _) | (e | _) | (e | _) | (e | _) | (e | _) | (e | _) | _ <;>
    cases hc <;> rfl

theorem asks_failure {c : Completion} {failure : String × TransportError}
    (hc : c.failure? = some failure) (s : Session) : s.asks c = none := by
  rcases c with (e | _) | (e | _) | (e | _) | (e | _) | (e | _) | (e | _) | (e | _) | _ <;>
    first | rfl | cases hc

theorem received_pen (c : Completion) (s : Session) : (s.received c).pen = s.pen := by
  cases c <;> rfl

theorem received_phase (c : Completion) (s : Session) : (s.received c).phase = s.phase := by
  cases c <;> rfl

/-- A completion that tells of no failure leads to operations alone. -/
theorem absorb_tells (now : Nat) {c : Completion} (s : Session) (hc : c.failure? = none) :
    (s.absorb now c).Tells s := by
  -- The upgrade ends every hold on writes, and is the one way for a step to do so.
  have upgrade {s' : Session} {x : Step} (h : x.Tells s') (hp : s.phase = .establishing)
      (mode : s'.frameMode = s.frameMode) (kind : s'.outgoing = s.outgoing)
      (output : s'.output = s.output) : x.Tells s := by
    refine ⟨h.only, fun k d hw => ?_, by rw [← output]; exact h.output, h.mode.trans mode,
      h.kind.trans kind, .inr hp⟩
    obtain ⟨hk, hd, -⟩ := h.writes k d hw
    exact ⟨hk.trans kind, hd.trans output, .inr hp⟩
  rcases c with (e | _) | (e | response) | (e | frame) | (e | n) | (e | _) | (e | _) | (e | _) |
    ⟨kind, payload⟩
  case accepted.error | handshaked.error | read.error | written.error | pinged.error |
      ponged.error | closed.error => cases hc
  case accepted.ok =>
    unfold absorb
    dsimp only
    split
    · rename_i hp
      exact upgrade (advance_tells now true _) hp rfl rfl rfl
    · exact .stay rfl
  case handshaked.ok =>
    unfold absorb
    dsimp only
    split
    · rename_i hp
      exact upgrade (flush_tells true _) hp (by simp [keepalive_eq, received])
        (by simp [keepalive_eq, received]) (by simp [keepalive_eq, received])
    · exact .stay rfl
  case read.ok | control => exact .stay rfl
  case written.ok => exact (advance_tells now _ _).of_pen rfl rfl
  case pinged.ok | ponged.ok => exact (read_tells now _).of_pen rfl rfl
  case closed.ok =>
    unfold absorb
    dsimp only
    split <;> exact ⟨by simp, by simp, .inr rfl, rfl, rfl, .inl rfl⟩

/-- What follows an answer tells of operations only, and the answer to a frame may change the type
at hand before. -/
theorem resume_only (now : Nat) (c : Completion) (draft : Draft) (s : Session) :
    ∀ event ∈ (s.resume now c draft).events, ∃ op, event = .issued op := by
  unfold resume
  split
  · exact (advance_tells now true s).only
  · exact (flush_tells _ _).only
  · exact (advance_tells now _ _).only
  · simp

end Session

/-- What an action says by itself. -/
def Action.remark (s : Session) : Action → Option Event
  | .post receiver command => some (.posted receiver command)
  | .warn warning => some (.warned warning)
  | .deliver delivery => some (.delivered delivery)
  | .leaveMark mark => some (.marked mark)
  | .inspect what => some (.inspected what s)
  | _ => none

/-- An action tells of operations, or else of the one thing that it says. -/
theorem Action.effect_remark (now : Nat) (s : Session) {a : Action} (ha : ∀ c, a ≠ .complete c)
    {event : Event} (he : event ∈ (a.effect now s).events) :
    (∃ op, event = .issued op) ∨ a.remark s = some event ∧ (a.effect now s).events = [event] := by
  cases a with
  | accept policy => exact .inl ((s.accept_tells now policy).only event he)
  | handshake target => exact .inl ((s.handshake_tells now target).only event he)
  | read => exact .inl ((s.read_tells now).only event he)
  | write => exact .inl ((s.flush_tells true).only event he)
  | push data => exact .inl ((Session.flush_tells true _).only event he)
  | ping payload => exact .inl ((s.ping_tells now payload).only event he)
  | pong payload => exact .inl ((s.pong_tells now payload).only event he)
  | close reason => exact .inl ((s.close_tells now reason).only event he)
  | forceClose => exact .inl (s.forceClose_tells.only event he)
  | fireTimer instant? => exact .inl ((s.fire_tells now _).only event he)
  | apply command =>
    cases command with
    | push data => exact .inl ((Session.flush_tells true _).only event he)
    | read => exact .inl ((s.read_tells now).only event he)
    | ping payload => exact .inl ((s.ping_tells now payload).only event he)
    | close reason => exact .inl ((s.close_tells now reason).only event he)
    | run body => cases he
  | complete c => exact absurd rfl (ha c)
  | post | warn | deliver | leaveMark | inspect =>
    obtain rfl := List.mem_singleton.mp he
    exact .inr ⟨rfl, rfl⟩
  | _ => cases he

end Parley

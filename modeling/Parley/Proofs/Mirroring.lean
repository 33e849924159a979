import Parley.Proofs.Issuing
import Parley.Proofs.Pursuit

namespace Parley

/-- The mode that an action sets. -/
def Action.mode? : Action → Option FrameMode
  | .setFrameMode mode => some mode
  | _ => none

namespace Note

def mode? : Note → Option FrameMode
  | .began _ _ a => a.mode?
  | _ => none

/-- The frame that was read. -/
def frame? : Note → Option Frame
  | .began _ _ (.complete (.read (.ok frame))) => some frame
  | _ => none

/-- If it is a completion, it comes while no hook has the queue. -/
def isPatient : Note → Bool
  | .began _ s (.complete _) => !s.inHook
  | _ => true

end Note

/-- The mode that a session is in whose record is `r`, if it was in `mode` at first. -/
def modeAfter (mode : FrameMode) (r : List Note) : FrameMode :=
  (r.filterMap (·.mode?)).getLast?.getD mode

/-- Never in a fixed mode. -/
def Automatic (mode : FrameMode) (r : List Note) : Prop :=
  mode = .auto ∧ ∀ n ∈ r, ∀ mode ∈ n.mode?, mode = .auto

instance (mode : FrameMode) (r : List Note) : Decidable (Automatic mode r) :=
  inferInstanceAs (Decidable (mode = .auto ∧ ∀ n ∈ r, ∀ mode ∈ n.mode?, mode = .auto))

/-- Hooks do not feed completions: what comes, comes from outside and finds no hook running. -/
def Patient (r : List Note) : Prop := ∀ n ∈ r, n.isPatient = true

instance (r : List Note) : Decidable (Patient r) :=
  inferInstanceAs (Decidable (∀ n ∈ r, n.isPatient = true))

/-- The type of the frame that was read last, and text before any was. -/
def mirrored (r : List Note) : FrameKind :=
  ((r.filterMap (·.frame?)).getLast?.map (·.kind)).getD .text

/-- The types that a session sends its frames in, from the session that it was at first. -/
structure Turn.Mirrors {σ : Type} (t : Turn σ) (s₀ : Session) : Prop where
  mode : ∀ s r, t.Shows s r → s.frameMode = modeAfter s₀.frameMode r
  fixed : ∀ p kind data q, t.record = p ++ .did (.issued (.write kind data)) :: q →
    ∀ kind', modeAfter s₀.frameMode p = .fixed kind' → kind = kind'
  mirrors : ∀ p kind data q, t.record = p ++ .did (.issued (.write kind data)) :: q →
    Automatic s₀.frameMode p → Patient p → kind = mirrored p

def Completion.IsMessage (c : Completion) : Prop := ∃ frame, c = .read (.ok frame)

theorem modeAfter_append (mode : FrameMode) (r m : List Note) :
    modeAfter mode (r ++ m) = modeAfter (modeAfter mode r) m := by
  unfold modeAfter
  rw [List.filterMap_append, List.getLast?_append]
  cases (m.filterMap (·.mode?)).getLast? <;> simp

theorem modeAfter_silent (mode : FrameMode) {m : List Note} (h : ∀ n ∈ m, n.mode? = none) :
    modeAfter mode m = mode := by
  have none_set : m.filterMap (·.mode?) = [] := List.filterMap_eq_nil_iff.mpr h
  rw [modeAfter, none_set]
  rfl

theorem Automatic.left {mode : FrameMode} {r m : List Note} (h : Automatic mode (r ++ m)) :
    Automatic mode r :=
  ⟨h.1, fun n hn => h.2 n (List.mem_append_left m hn)⟩

theorem Automatic.modeAfter_eq {mode : FrameMode} {r : List Note} (h : Automatic mode r) :
    modeAfter mode r = .auto := by
  unfold modeAfter
  cases last : (r.filterMap (·.mode?)).getLast? with
  | none => exact h.1
  | some mode' =>
    obtain ⟨n, hn, hm⟩ := List.mem_filterMap.mp (List.mem_of_getLast? last)
    exact h.2 n hn mode' hm

theorem Patient.left {r m : List Note} (h : Patient (r ++ m)) : Patient r :=
  fun n hn => h n (List.mem_append_left m hn)

theorem mirrored_unread (r : List Note) {m : List Note} (h : ∀ n ∈ m, n.frame? = none) :
    mirrored (r ++ m) = mirrored r := by
  have none_read : m.filterMap (·.frame?) = [] := List.filterMap_eq_nil_iff.mpr h
  rw [mirrored, List.filterMap_append, none_read, List.append_nil]
  rfl

theorem mirrored_read (r : List Note) {n : Note} (frame : Frame) {m : List Note}
    (hn : n.frame? = some frame) (h : ∀ n ∈ m, n.frame? = none) :
    mirrored (r ++ n :: m) = frame.kind := by
  rw [List.append_cons, mirrored_unread _ h, mirrored, List.filterMap_append]
  simp [hn]

theorem Session.Step.notes_silent (x : Session.Step) : ∀ n ∈ x.notes, n.mode? = none := by
  intro n hn
  obtain ⟨event, rfl⟩ := x.notes_deeds n hn
  rfl

theorem Session.Step.notes_unread (x : Session.Step) : ∀ n ∈ x.notes, n.frame? = none := by
  intro n hn
  obtain ⟨event, rfl⟩ := x.notes_deeds n hn
  rfl

namespace Session

/-- The session writes as it did before, if it has come through the upgrade. -/
structure Holds (s s' : Session) : Prop where
  mode : s'.frameMode = s.frameMode
  kind : s'.outgoing = s.outgoing
  held : s'.inHook = s.inHook ∨ s.phase = .establishing

/-- The type of what follows the answer to a completion. -/
def replying (c : Completion) (s : Session) : FrameKind :=
  match c with
  | .read (.ok frame) => if s.frameMode = .auto then frame.kind else s.outgoing
  | _ => s.outgoing

/-- What is known of the writes of a step: their type, and that nothing held them back. -/
def Inked (s : Session) (events : List Event) : Prop :=
  ∀ kind data, .issued (.write kind data) ∈ events →
    kind = s.outgoing ∧ (s.inHook = false ∨ s.phase = .establishing)

theorem Step.Tells.holds {s : Session} {x : Step} (h : x.Tells s) :
    s.Holds x.session ∧ s.Inked x.events :=
  ⟨⟨h.mode, h.kind, h.held⟩,
    fun kind data hw => ⟨(h.writes kind data hw).1, (h.writes kind data hw).2.2⟩⟩

theorem absorb_holds (now : Nat) (c : Completion) (s : Session) :
    s.Holds (s.absorb now c).session ∧ s.Inked (s.absorb now c).events := by
  cases hc : c.failure? with
  | none => exact (s.absorb_tells now hc).holds
  | some failure =>
    obtain ⟨op, error⟩ := failure
    obtain ⟨holds, inked⟩ := (((s.received c).stopped_tells error).of_pen (s.received_pen c).symm
      (s.received_phase c)).holds
    rw [absorb_failure hc, fail_eq]
    refine ⟨holds, fun kind data hw => inked kind data ?_⟩
    refine (List.mem_append.mp hw).resolve_left fun reported => ?_
    unfold complaint at reported
    split at reported <;> simp at reported

theorem asking_holds (now : Nat) (c : Completion) (s : Session) :
    (s.asking now c).frameMode = s.frameMode ∧ (s.asking now c).outgoing = s.outgoing := by
  rcases c with _ | (_ | _) | _ | _ | _ | _ | _ | _ <;>
    simp [asking, received, keepalive_eq, peerActive]

/-- What follows an answer goes out in the type that it calls for. -/
theorem resume_replies (now : Nat) (c : Completion) (draft : Draft) (s : Session) :
    (s.resume now c draft).session.frameMode = s.frameMode ∧
      (s.resume now c draft).session.outgoing = s.replying c ∧
      ∀ kind data, .issued (.write kind data) ∈ (s.resume now c draft).events →
        kind = s.replying c := by
  rcases c with _ | _ | (_ | frame) | _ | _ | _ | _ | _
  case accepted =>
    have tells := advance_tells now true s
    exact ⟨tells.mode, tells.kind, fun k d hw => (tells.writes k d hw).1⟩
  case handshaked =>
    have tells := flush_tells draft.nextRead { s with response := none }
    exact ⟨tells.mode, tells.kind, fun k d hw => (tells.writes k d hw).1⟩
  case read.ok =>
    have told (follow : Bool) (s' : Session) :=
      fun k d hw => ((advance_tells now follow s').writes k d hw).1
    by_cases hm : s.frameMode = .auto
    · simp only [resume, replying, if_pos hm]
      exact ⟨(advance_tells now _ _).mode, (advance_tells now _ _).kind, told _ _⟩
    · simp only [resume, replying, if_neg hm]
      exact ⟨(advance_tells now _ s).mode, (advance_tells now _ s).kind, told _ s⟩
  all_goals exact ⟨rfl, rfl, by simp [resume]⟩

end Session

theorem Action.effect_holds (now : Nat) (s : Session) {a : Action} (ha : ∀ c, a ≠ .complete c)
    (hm : a.mode? = none) :
    s.Holds (a.effect now s).session ∧ s.Inked (a.effect now s).events := by
  have pushed (data : Bytes) : s.Holds (s.push data).session ∧ s.Inked (s.push data).events := by
    obtain ⟨holds, inked⟩ := (Session.flush_tells true { s with output := s.output ++ data }).holds
    exact ⟨⟨holds.mode, holds.kind, holds.held⟩, inked⟩
  cases a with
  | accept policy => exact (s.accept_tells now policy).holds
  | handshake target => exact (s.handshake_tells now target).holds
  | read => exact (s.read_tells now).holds
  | write => exact (s.flush_tells true).holds
  | push data => exact pushed data
  | ping payload => exact (s.ping_tells now payload).holds
  | pong payload => exact (s.pong_tells now payload).holds
  | close reason => exact (s.close_tells now reason).holds
  | forceClose => exact s.forceClose_tells.holds
  | setFrameMode mode => cases hm
  | keepalive => exact (Session.Step.Tells.stay (s.keepalive_pen now)).holds
  | fireTimer instant? => exact (s.fire_tells now _).holds
  | apply command =>
    cases command with
    | push data => exact pushed data
    | read => exact (s.read_tells now).holds
    | ping payload => exact (s.ping_tells now payload).holds
    | close reason => exact (s.close_tells now reason).holds
    | run body => exact (Session.Step.Tells.stay rfl).holds
  | complete c => exact absurd rfl (ha c)
  | post | warn | deliver | leaveMark | inspect =>
    exact ⟨⟨rfl, rfl, .inl rfl⟩, by simp [Session.Inked, Action.effect]⟩
  | _ => exact ⟨⟨rfl, rfl, .inl rfl⟩, by simp [Session.Inked, Action.effect, Session.stay]⟩

/-- What a move does to how a session writes, and what it writes itself. -/
inductive Inks : Scene → List Note → Scene → Prop
  | holds {s s' : Session} {m : List Note} (k : List Loan) (h : s.Holds s')
    (silent : ∀ n ∈ m, n.mode? = none)
    (unread : s.phase ≠ .closed → ∀ n ∈ m, n.frame? = none)
    (writes : s.Inked (m.filterMap (·.event?))) : Inks ⟨s, k⟩ m ⟨s', k⟩
  | sets (now : Nat) (mode : FrameMode) (s : Session) (k : List Loan) :
    Inks ⟨s, k⟩ [.began now s (.setFrameMode mode)] ⟨s.setFrameMode mode, k⟩
  | lends (now : Nat) {c : Completion} {s s' : Session} (k : List Loan)
    (mode : s'.frameMode = s.frameMode)
    (kind : s'.outgoing = s.outgoing) (held : s'.inHook = true)
    (upgraded : ¬c.IsMessage → 2 ≤ s'.phase.rank) :
    Inks ⟨s, k⟩ [.began now s (.complete c), .lent s.output] ⟨s', ⟨c, s.output⟩ :: k⟩
  | answers {loan : Loan} {s s' : Session} (x : Session.Step) (draft : Draft) (k : List Loan)
    (mode : s'.frameMode = s.frameMode) (kind : s'.outgoing = s.replying loan.completion)
    (writes : ∀ kind data, .issued (.write kind data) ∈ x.events →
      kind = s.replying loan.completion) :
    Inks ⟨s, loan :: k⟩ (.returned loan.output draft :: x.notes) ⟨s', k⟩

/-- A message that no hook is asked about has come after the end. -/
theorem Session.unread_of_asks {s : Session} {c : Completion} (h : s.asks c = none)
    (running : s.phase ≠ .closed) : ¬c.IsMessage := by
  intro message
  obtain ⟨frame, rfl⟩ := message
  cases hp : s.phase <;> simp_all [asks, isClosed, Phase.isClosed]

/-- A hook that is asked on no message is asked as the upgrade completes. -/
theorem Session.upgraded_of_asks {s : Session} {c : Completion} {hook : Bytes → Hook}
    (h : s.asks c = some hook) (hc : ¬c.IsMessage) (now : Nat) :
    2 ≤ (s.asking now c).phase.rank := by
  unfold asks at h
  split at h
  · simp [asking, Phase.rank]
  · simp [asking, keepalive_eq, Phase.rank]
  · exact absurd ⟨_, rfl⟩ hc
  · cases h

theorem Note.frame?_other {now : Nat} {s : Session} {c : Completion} (h : ¬c.IsMessage) :
    (Note.began now s (.complete c)).frame? = none := by
  unfold frame?
  split
  · rename_i frame he
    cases he
    exact absurd ⟨_, rfl⟩ h
  · rfl

theorem Move.inks {now : Nat} {x y : Scene} {m : List Note} (h : Move now x m y) : Inks x m y := by
  have told (n : Note) (r : Session.Step) (hn : n.event? = none) :
      (n :: r.notes).filterMap (·.event?) = r.events := by
    rw [List.filterMap_cons_none hn, notes_events]
  cases h with
  | act now a s k ha =>
    have unread : (Note.began now s a).frame? = none := by
      cases a with
      | complete c => exact absurd rfl (ha c)
      | _ => rfl
    cases hm : a.mode? with
    | none =>
      obtain ⟨holds, inked⟩ := a.effect_holds now s ha hm
      refine .holds k holds (List.forall_mem_cons.mpr ⟨hm, Session.Step.notes_silent _⟩)
        (fun _ => List.forall_mem_cons.mpr ⟨unread, Session.Step.notes_unread _⟩) ?_
      rw [told _ _ rfl]
      exact inked
    | some mode =>
      cases a <;> cases hm
      exact .sets now mode s k
  | absorb now c s k ha =>
    obtain ⟨holds, inked⟩ := s.absorb_holds now c
    refine .holds k holds (List.forall_mem_cons.mpr ⟨rfl, Session.Step.notes_silent _⟩)
      (fun running => List.forall_mem_cons.mpr
        ⟨Note.frame?_other (Session.unread_of_asks ha running), Session.Step.notes_unread _⟩) ?_
    rw [told _ _ rfl]
    exact inked
  | enter hook s k =>
    exact .holds k ⟨rfl, rfl, .inl rfl⟩ (by simp [Note.mode?]) (by simp [Note.frame?])
      (by simp [Session.Inked, Note.event?])
  | ask now c hook s k ha =>
    obtain ⟨mode, kind⟩ := s.asking_holds now c
    exact .lends now k mode kind rfl (Session.upgraded_of_asks ha · now)
  | answer now loan draft s k =>
    obtain ⟨mode, kind, writes⟩ :=
      (s.restore draft.output).resume_replies now loan.completion draft
    exact .answers _ draft k mode kind writes
  | flush s k =>
    obtain ⟨holds, inked⟩ := (s.flush_tells true).holds
    refine .holds k holds (Session.Step.notes_silent _) (fun _ => Session.Step.notes_unread _) ?_
    rw [notes_events]
    exact inked
  | reach held s k =>
    exact .holds k ⟨rfl, rfl, .inl rfl⟩ (by simp) (by simp) (by simp [Session.Inked])

theorem mem_events {m : List Note} {event : Event} :
    event ∈ m.filterMap (·.event?) ↔ .did event ∈ m := by
  refine ⟨fun h => ?_, fun h => List.mem_filterMap.mpr ⟨_, h, rfl⟩⟩
  obtain ⟨n, hn, he⟩ := List.mem_filterMap.mp h
  unfold Note.event? at he
  split at he
  · cases he
    exact hn
  · cases he

theorem Session.replying_other {c : Completion} (h : ¬c.IsMessage) (s : Session) :
    s.replying c = s.outgoing := by
  unfold replying
  split
  · exact absurd ⟨_, rfl⟩ h
  · rfl

theorem Session.replying_message {frame : Frame} {s : Session} (h : s.frameMode = .auto) :
    s.replying (.read (.ok frame)) = frame.kind :=
  if_pos h

/-- The session is in the mode that its record tells of, and in a fixed mode the type at hand is the
one of the mode. -/
structure InMode (mode : FrameMode) (s : Session) (r : List Note) : Prop where
  current : s.frameMode = modeAfter mode r
  fixed : ∀ kind, s.frameMode = .fixed kind → s.outgoing = kind

theorem Session.Fresh.outgoing {s : Session} (h : s.Fresh) :
    s.outgoing = s.frameMode.initial := by
  cases h <;> rfl

namespace InMode

variable {mode : FrameMode} {s s' : Session} {r m : List Note}

theorem fresh (h : s.Fresh) : InMode s.frameMode s [] := by
  refine ⟨rfl, fun kind hk => ?_⟩
  rw [h.outgoing, hk]
  rfl

/-- Lines that are silent tell of nothing that changes the mode. -/
theorem silent (h : InMode mode s r) (hm : ∀ n ∈ m, n.mode? = none)
    (he : s'.frameMode = s.frameMode)
    (hk : ∀ kind, s.frameMode = .fixed kind → s'.outgoing = s.outgoing) :
    InMode mode s' (r ++ m) := by
  refine ⟨?_, fun kind hf => ?_⟩
  · rw [modeAfter_append, modeAfter_silent _ hm, ← h.current, he]
  · have fixed := he.symm.trans hf
    exact (hk kind fixed).trans (h.fixed kind fixed)

theorem set (mode : FrameMode) (r : List Note) (now : Nat) (s s₁ : Session) (mode' : FrameMode) :
    InMode mode (s.setFrameMode mode') (r ++ [.began now s₁ (.setFrameMode mode')]) := by
  have last : modeAfter mode (r ++ [.began now s₁ (.setFrameMode mode')]) = mode' := by
    rw [modeAfter_append]
    rfl
  cases mode' with
  | auto => exact ⟨last.symm, nofun⟩
  | fixed kind =>
    refine ⟨last.symm, fun kind' hf => ?_⟩
    cases hf
    rfl

end InMode

theorem Session.replying_fixed {c : Completion} {s : Session} {kind : FrameKind}
    (h : s.frameMode = .fixed kind) : s.replying c = s.outgoing := by
  unfold replying
  split
  · rw [if_neg (by rw [h]; nofun)]
  · rfl

/-- What a move does keeps the account of the mode. -/
theorem Inks.inMode {mode : FrameMode} {x y : Scene} {r m : List Note} (h : Inks x m y)
    (hx : InMode mode x.session r) : InMode mode y.session (r ++ m) := by
  cases h with
  | holds k holds silent => exact hx.silent silent holds.mode fun _ _ => holds.kind
  | sets now mode' s k => exact .set mode r now s s mode'
  | lends now k mode kind =>
    exact hx.silent (by simp [Note.mode?, Action.mode?]) mode fun _ _ => kind
  | answers x draft k mode kind =>
    refine hx.silent (List.forall_mem_cons.mpr ⟨rfl, x.notes_silent⟩) mode fun _ fixed => ?_
    rw [kind, Session.replying_fixed fixed]

/-- A write is in the type at hand when it is issued. -/
theorem Inks.writes {mode : FrameMode} {x y : Scene} {r p q : List Note} {kind : FrameKind}
    {data : Bytes} (h : Inks x (p ++ .did (.issued (.write kind data)) :: q) y)
    (hx : InMode mode x.session r) {kind' : FrameKind}
    (fixed : modeAfter mode (r ++ p) = .fixed kind') : kind = kind' := by
  generalize hm : p ++ .did (.issued (.write kind data)) :: q = m at h
  have written : .issued (.write kind data) ∈ m.filterMap (·.event?) :=
    mem_events.mpr (by simp [← hm])
  cases h with
  | @holds s _ _ k _ silent _ writes =>
    have unset : ∀ n ∈ p, n.mode? = none := fun n hn => silent n (by simp [← hm, hn])
    rw [modeAfter_append, modeAfter_silent _ unset, ← hx.current] at fixed
    exact (writes kind data written).1.trans (hx.fixed kind' fixed)
  | sets | lends => simp [Note.event?] at written
  | @answers loan s s' x draft k mode kind'' writes =>
    have silent : ∀ n ∈ Note.returned loan.output draft :: x.notes, n.mode? = none :=
      List.forall_mem_cons.mpr ⟨rfl, x.notes_silent⟩
    have unset : ∀ n ∈ p, n.mode? = none := fun n hn => silent n (by simp [← hm, hn])
    rw [modeAfter_append, modeAfter_silent _ unset, ← hx.current] at fixed
    rw [writes kind data (Session.Step.mem_notes.mp (by simpa using mem_events.mp written)),
      Session.replying_fixed fixed]
    exact hx.fixed kind' fixed

theorem Path.inMode {x y : Scene} {r : List Note} {mode : FrameMode} (h : Path x r y)
    (hx : InMode mode x.session []) : InMode mode y.session r :=
  h.keeps (P := fun y r => InMode mode y.session r) (fun _ _ _ _ ih hm => hm.inks.inMode ih) hx

/-- What is sent next is sent in this type: it is the one at hand, or it will be when the hook has
returned that holds back all writes. -/
inductive Tuned (kind : FrameKind) : Scene → Prop
  | idle {s : Session} (hk : s.outgoing = kind) : Tuned kind ⟨s, []⟩
  | asking {s : Session} {loan : Loan} (hk : s.replying loan.completion = kind)
    (held : s.inHook = true) (upgraded : 2 ≤ s.phase.rank) : Tuned kind ⟨s, [loan]⟩
  | ended {s : Session} {k : List Loan} (h : s.phase = .closed) : Tuned kind ⟨s, k⟩

theorem Phase.upgraded_ne {p : Phase} (h : 2 ≤ p.rank) : p ≠ .establishing := by
  intro establishing
  simp [establishing, rank] at h

theorem Session.replying_congr {s s' : Session} (c : Completion)
    (mode : s'.frameMode = s.frameMode) (kind : s'.outgoing = s.outgoing) :
    s'.replying c = s.replying c := by
  unfold replying
  rw [mode, kind]

/-- A hook that is lent the queue is the only one, and answers the message read last. -/
theorem Move.tuned {now : Nat} {x y : Scene} {r m : List Note} (h : Move now x m y)
    (hx : Tuned (mirrored r) x) (auto : x.session.frameMode = .auto)
    (living : Living x.session.life r) (hf : Fair (r ++ m)) (hp : Patient m)
    (ha : ∀ n ∈ m, ∀ mode ∈ n.mode?, mode = .auto) : Tuned (mirrored (r ++ m)) y := by
  by_cases closed : x.session.phase = .closed
  · exact .ended ((Path.single h).epilogue closed).closed
  have onward := h.forward.2
  have inks := h.inks
  cases inks with
  | holds k holds _ unread =>
    rw [mirrored_unread r (unread closed)]
    cases hx with
    | idle hk => exact .idle (holds.kind.trans hk)
    | asking hk held upgraded =>
      have still := holds.held.resolve_right (Phase.upgraded_ne upgraded)
      exact .asking ((Session.replying_congr _ holds.mode holds.kind).trans hk) (still.trans held)
        (Nat.le_trans upgraded onward)
    | ended hc => exact absurd hc closed
  | sets now' mode s k =>
    obtain rfl : mode = .auto := ha _ List.mem_cons_self mode rfl
    rw [mirrored_unread r (by simp [Note.frame?])]
    cases hx with
    | idle hk => exact .idle hk
    | @asking s loan hk held upgraded =>
      have same : (s.setFrameMode .auto).replying loan.completion = s.replying loan.completion :=
        Session.replying_congr _ auto.symm rfl
      exact .asking (same.trans hk) held upgraded
    | ended hc => exact absurd hc closed
  | @lends now' c s s' k mode kept held upgraded =>
    have free : s.inHook = false := by simpa [Note.isPatient] using hp _ List.mem_cons_self
    cases hx with
    | idle hk =>
      by_cases message : c.IsMessage
      · obtain ⟨frame, rfl⟩ := message
        rw [mirrored_read r frame rfl (by simp [Note.frame?])]
        have due := hf.due .read rfl
        have risen : 2 ≤ s.phase.rank :=
          living.rank_of_read (by unfold outstanding at due; omega)
        exact .asking (Session.replying_message (mode.trans auto)) held
          (Nat.le_trans risen onward)
      · rw [mirrored_unread r
          (List.forall_mem_cons.mpr ⟨Note.frame?_other message, by simp [Note.frame?]⟩)]
        exact .asking ((Session.replying_other message s').trans (kept.trans hk)) held
          (upgraded message)
    | asking _ running => rw [free] at running; cases running
    | ended hc => exact absurd hc closed
  | answers x draft k mode kept =>
    rw [mirrored_unread r (List.forall_mem_cons.mpr ⟨rfl, x.notes_unread⟩)]
    cases hx with
    | asking hk => exact .idle (kept.trans hk)
    | ended hc => exact absurd hc closed

/-- What a move writes meanwhile. -/
theorem Move.tuned_write {now : Nat} {x y : Scene} {p q : List Note} {kind kind' : FrameKind}
    {data : Bytes} (h : Move now x (p ++ .did (.issued (.write kind' data)) :: q) y)
    (hx : Tuned kind x) : kind' = kind ∧ ∀ n ∈ p, n.frame? = none := by
  generalize hm : p ++ .did (.issued (.write kind' data)) :: q = m at h
  have written : .did (.issued (.write kind' data)) ∈ m := by simp [← hm]
  have front : ∀ n ∈ p, n ∈ m := fun n hn => by simp [← hm, hn]
  by_cases closed : x.session.phase = .closed
  · have told := mem_operations.mpr written
    rcases dropped_cases ((Path.single h).epilogue closed).last with none | one
    · rw [none] at told
      cases told
    · rw [one] at told
      cases List.mem_singleton.mp told
  have inks := h.inks
  cases inks with
  | holds k holds _ unread writes =>
    obtain ⟨hk', free⟩ := writes kind' data (mem_events.mpr written)
    refine ⟨?_, fun n hn => unread closed n (front n hn)⟩
    cases hx with
    | idle hk => exact hk'.trans hk
    | asking _ held upgraded =>
      -- The hook that is running holds this write back.
      rcases free with free | establishing
      · rw [held] at free
        cases free
      · exact absurd establishing (Phase.upgraded_ne upgraded)
    | ended hc => exact absurd hc closed
  | sets | lends => simp at written
  | @answers loan s s' x draft k _ _ writes =>
    have unread : ∀ n ∈ Note.returned loan.output draft :: x.notes, n.frame? = none :=
      List.forall_mem_cons.mpr ⟨rfl, x.notes_unread⟩
    refine ⟨?_, fun n hn => unread n (front n hn)⟩
    have hk' := writes kind' data (Session.Step.mem_notes.mp (by simpa using written))
    cases hx with
    | asking hk => exact hk'.trans hk
    | ended hc => exact absurd hc closed

theorem Path.tuned {s₀ : Session} {y : Scene} {r : List Note} (h : Path ⟨s₀, []⟩ r y)
    (h₀ : s₀.Fresh) (hf : Fair r) (hp : Patient r) (ha : Automatic s₀.frameMode r) :
    Tuned (mirrored r) y := by
  generalize hx : (⟨s₀, []⟩ : Scene) = x at h
  induction h with
  | refl =>
    subst hx
    refine .idle ?_
    rw [h₀.outgoing, ha.1]
    rfl
  | snoc before move ih =>
    subst hx
    have mode := (before.inMode (.fresh h₀)).current.trans ha.left.modeAfter_eq
    exact move.tuned (ih hf.left hp.left ha.left) mode (before.living (.fresh h₀)) hf
      (fun n hn => hp n (List.mem_append_right _ hn))
      (fun n hn => ha.2 n (List.mem_append_right _ hn))

/-- Whatever its handler does, a session sends every frame in the type that its mode calls for. -/
theorem Handler.course_mirrors {σ : Type} (h : Handler σ) (depth : Nat) {s₀ : Session}
    (h₀ : s₀.Fresh) (shared : σ) (ms : List (Moment σ))
    (hf : Fair (h.course depth s₀ shared ms).record) :
    (h.course depth s₀ shared ms).Mirrors s₀ := by
  have whole := h.course_path depth s₀ shared ms
  constructor
  case mode =>
    intro s r shown
    obtain ⟨k, path⟩ := shown.path
    exact (path.inMode (.fresh h₀)).current
  case fixed =>
    intro p kind data q hr kind' hk
    obtain ⟨l, p', q', now, z, z', before, move, rfl⟩ := whole.cut hr
    exact move.inks.writes (before.inMode (.fresh h₀)) hk
  case mirrors =>
    intro p kind data q hr auto patient
    obtain ⟨l, p', q', now, z, z', before, move, rfl⟩ := whole.cut hr
    rw [hr, List.append_assoc] at hf
    obtain ⟨hk, unread⟩ := move.tuned_write (before.tuned h₀ hf.left patient.left auto.left)
    rw [hk, mirrored_unread l unread]

/-- A message comes while a byte is queued; the mode is set before the next one is answered. -/
def toning : List (Moment Unit) :=
  [.accept {}, .complete (.accepted (.ok ())), .queue [33],
    .complete (.read (.ok ⟨.binary, [98]⟩)), .setFrameMode (.fixed .text),
    .complete (.written (.ok 2)), .complete (.read (.ok ⟨.binary, [99]⟩))].map .plain

def toned : Turn Unit := Handler.echo.course 2 (.server 0 {}) () toning

theorem toned_mirrors :
    Session.Fresh (.server 0 {}) ∧ Fair toned.record ∧
      (∃ p kind q, toned.record = p ++ .did (.issued (.write kind [33, 98])) :: q ∧
        Automatic .auto p ∧ Patient p ∧ mirrored p = .binary ∧ kind = .binary) ∧
      ∃ p kind q, toned.record = p ++ .did (.issued (.write kind [99])) :: q ∧
        modeAfter .auto p = .fixed .text ∧ mirrored p = .binary ∧ kind = .text := by
  have fair : Fair toned.record := by decide +kernel
  have mirrors : toned.Mirrors (.server 0 {}) :=
    Handler.echo.course_mirrors 2 (.server 0 {}) () toning fair
  have automatic : toned.record =
      toned.record.take 15 ++ .did (.issued (.write _ [33, 98])) :: toned.record.drop 16 := rfl
  have fixed : toned.record =
      toned.record.take 25 ++ .did (.issued (.write _ [99])) :: toned.record.drop 26 := rfl
  refine ⟨.server 0 {}, fair,
    ⟨_, _, _, automatic, by decide +kernel, by decide +kernel, by decide +kernel, ?_⟩,
    ⟨_, _, _, fixed, by decide +kernel, by decide +kernel, ?_⟩⟩
  · exact mirrors.mirrors _ _ _ _ automatic (by decide +kernel) (by decide +kernel)
  · exact mirrors.fixed _ _ _ _ fixed _ (by decide +kernel)

end Parley

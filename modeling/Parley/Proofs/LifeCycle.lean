import Parley.Echo
import Parley.Proofs.Passage

namespace Parley

/-- The upgrade succeeded while it was in flight. -/
def Note.upgrades : Note → Bool
  | .began _ s (.complete c) => c.upgrades && s.phase = .establishing
  | _ => false

/-- The upgrade was asked for by `opening`, and succeeded before anything else was issued. -/
def Upgraded (r : List Note) (opening : List Operation) : Prop :=
  opening ≠ [] ∧ ∃ p n q, r = p ++ n :: q ∧ n.upgrades = true ∧ operations p = opening

/-- The operations of a record, in their parts. -/
structure Stages (role : Role) (r : List Note) (opening frames closing dropping : List Operation) :
    Prop where
  all : operations r = opening ++ frames ++ closing ++ dropping
  one_opening : opening.length ≤ 1
  opens : ∀ op ∈ opening, op.opens role = true
  framed : ∀ op ∈ frames, op.isFrame = true
  late : frames ++ closing ≠ [] → Upgraded r opening
  one_closing : closing.length ≤ 1
  closes : ∀ op ∈ closing, ∃ reason, op = .close reason
  drops : dropping = [] ∨ dropping = [.forceClose]

/-- Where in the stages a session is that is not dropped. -/
def Phase.Fits (phase : Phase) (r : List Note) (opening frames closing : List Operation) : Prop :=
  match phase with
  | .created => opening = [] ∧ frames = [] ∧ closing = []
  | .establishing => opening ≠ [] ∧ frames = [] ∧ closing = []
  | .established _ => Upgraded r opening ∧ closing = []
  | .closing | .closed => True

def dropped (forced : Bool) : List Operation := if forced then [.forceClose] else []

/-- What a session is in the middle of is what its record says. -/
structure Living (l : Life) (r : List Note) : Prop where
  stages : ∃ opening frames closing,
    Stages l.role r opening frames closing (dropped l.forced) ∧ l.phase.Fits r opening frames closing
  closed : l.forced = true → l.phase = .closed

theorem Upgraded.append {r : List Note} {opening : List Operation} (h : Upgraded r opening)
    (m : List Note) : Upgraded (r ++ m) opening := by
  obtain ⟨ho, p, n, q, rfl, hn, hp⟩ := h
  exact ⟨ho, p, n, q ++ m, by simp, hn, hp⟩

theorem Phase.Fits.append {phase : Phase} {r : List Note} {opening frames closing : List Operation}
    (h : phase.Fits r opening frames closing) (m : List Note) :
    phase.Fits (r ++ m) opening frames closing := by
  cases phase with
  | established since => exact ⟨h.1.append m, h.2⟩
  | _ => exact h

/-- Lines that tell of no operation leave the stages as it is. -/
theorem Stages.append {role : Role} {r m : List Note}
    {opening frames closing dropping : List Operation}
    (h : Stages role r opening frames closing dropping) (hm : operations m = []) :
    Stages role (r ++ m) opening frames closing dropping :=
  { h with
    all := by rw [operations_append, hm, List.append_nil, h.all]
    late := fun hl => (h.late hl).append m }

namespace Living

theorem fresh {s : Session} (h : s.Fresh) : Living s.life [] := by
  cases h <;>
    exact ⟨⟨[], [], [], ⟨rfl, by simp, by simp, by simp, by simp, by simp, by simp, .inl rfl⟩,
      ⟨rfl, rfl, rfl⟩⟩, by simp [Session.life, Session.server, Session.client]⟩

theorem idle {l : Life} {r m : List Note} (h : Living l r) (hm : operations m = []) :
    Living l (r ++ m) := by
  obtain ⟨⟨opening, frames, closing, hs, hf⟩, hc⟩ := h
  exact ⟨⟨opening, frames, closing, hs.append hm, hf.append m⟩, hc⟩

/-- Before the end nothing is dropped yet. -/
theorem undropped {l : Life} {r : List Note} (h : Living l r) (hp : l.phase ≠ .closed) :
    dropped l.forced = [] := by
  cases hf : l.forced with
  | false => rfl
  | true => exact absurd (h.closed hf) hp

theorem upgrade {s : Session} {r : List Note} (h : Living s.life r) (now : Nat) {c : Completion}
    (hu : c.upgrades = true) (hp : s.phase = .establishing) :
    Living { s.life with phase := .established now } (r ++ [.began now s (.complete c)]) := by
  have hd := h.undropped (by simp [Session.life, hp])
  obtain ⟨⟨opening, frames, closing, hs, hf⟩, hc⟩ := h
  rw [Session.life, hp] at hf
  obtain ⟨ho, rfl, rfl⟩ := hf
  have begun : Upgraded (r ++ [.began now s (.complete c)]) opening :=
    ⟨ho, r, _, [], rfl, by simp [Note.upgrades, hu, hp], by simp [hs.all, hd]⟩
  exact ⟨⟨opening, [], [], hs.append rfl, begun, rfl⟩,
    fun hd => absurd (hc hd) (by simp [Session.life, hp])⟩

theorem step {l l' : Life} {r m : List Note} (h : Living l r) (hp : Passage l (operations m) l') :
    Living l' (r ++ m) := by
  -- How far the session is says which parts are empty yet, so what is issued goes behind them all.
  have hd := h.undropped
  obtain ⟨⟨opening, frames, closing, hs, hf⟩, hc⟩ := h
  generalize hm : operations m = ops at hp
  have all := operations_append r m
  rw [hm, hs.all] at all
  cases hp with
  | stays => exact idle ⟨⟨opening, frames, closing, hs, hf⟩, hc⟩ hm
  | opens op hop =>
    obtain ⟨rfl, rfl, rfl⟩ := hf
    specialize hd (by simp)
    refine ⟨⟨[op], [], [], ?_, by simp, rfl, rfl⟩, fun hx => nomatch hc hx⟩
    exact { hs with
      all := by simp [all, hd]
      one_opening := by simp
      opens := by simpa using hop
      late := by simp }
  | sends op hop =>
    obtain ⟨hu, rfl⟩ := hf
    specialize hd (by simp)
    refine ⟨⟨opening, frames ++ [op], [], ?_, hu.append m, rfl⟩, fun hx => nomatch hc hx⟩
    exact { hs with
      all := by simp [all, hd]
      framed := by
        intro op' hop'
        rcases List.mem_append.mp hop' with hop' | hop'
        · exact hs.framed op' hop'
        · rwa [List.mem_singleton.mp hop']
      late := fun _ => hu.append m }
  | closes reason =>
    obtain ⟨hu, rfl⟩ := hf
    specialize hd (by simp)
    refine ⟨⟨opening, frames, [.close reason], ?_, trivial⟩, fun hx => nomatch hc hx⟩
    exact { hs with
      all := by simp [all, hd]
      late := fun _ => hu.append m
      one_closing := by simp
      closes := by simp }
  | ends => exact ⟨⟨opening, frames, closing, hs.append hm, trivial⟩, fun _ => rfl⟩
  | drops =>
    refine ⟨⟨opening, frames, closing, ?_, trivial⟩, fun _ => rfl⟩
    exact { hs with
      all := by simpa [dropped] using all
      late := fun hl => (hs.late hl).append m
      drops := .inr rfl }

end Living

/-- How far a session is once a move has told it what it may tell of an upgrade. -/
inductive Session.Learns (s : Session) (m : List Note) : Life → Prop
  | nothing : Learns s m s.life
  | upgrade {now : Nat} {c : Completion} {m' : List Note} (hm : m = .began now s (.complete c) :: m')
      (hc : c.upgrades = true) (hp : s.phase = .establishing) :
    Learns s m { s.life with phase := .established now }

theorem Session.learns (now : Nat) (c : Completion) (s : Session) (m : List Note) :
    s.Learns (.began now s (.complete c) :: m) (s.upgraded now c).life := by
  unfold Session.upgraded
  split
  · rename_i h
    exact .upgrade rfl h.1 h.2
  · exact .nothing

/-- All that a move can do to the life of a session. -/
theorem Move.life {now : Nat} {x y : Scene} {m : List Note} (h : Move now x m y) :
    ∃ l, x.session.Learns m l ∧ Passage l (operations m) y.session.life := by
  cases h with
  | act now a s k hc => exact ⟨_, .nothing, (a.effect_passes now s hc).passage⟩
  | absorb now c s k => exact ⟨_, s.learns now c _, (s.absorb_passes now c).passage⟩
  | ask now c hook s k ha =>
    refine ⟨_, s.learns now c _, ?_⟩
    rw [Session.asking_life ha]
    exact .stays _
  | answer now loan draft s k =>
    exact ⟨_, .nothing, (s.restore draft.output).resume_passes now loan.completion draft |>.passage⟩
  | flush s k => exact ⟨_, .nothing, (s.flush_passes true).passage⟩
  | enter | reach => exact ⟨_, .nothing, .stays _⟩

theorem Move.living {now : Nat} {x y : Scene} {r m : List Note} (h : Move now x m y)
    (hl : Living x.session.life r) : Living y.session.life (r ++ m) := by
  obtain ⟨l, learns, passes⟩ := h.life
  cases learns with
  | nothing => exact hl.step passes
  | @upgrade now c m' hm hc hp =>
    subst hm
    have upgraded := hl.upgrade now hc hp
    rw [List.append_cons]
    exact upgraded.step passes

theorem Path.living {x y : Scene} {r : List Note} (h : Path x r y)
    (hl : Living x.session.life []) : Living y.session.life r :=
  h.keeps (P := fun x r => Living x.session.life r) (fun _ _ _ _ ih hm => hm.living ih) hl

def Phase.rank : Phase → Nat
  | .created => 0
  | .establishing => 1
  | .established _ => 2
  | .closing => 3
  | .closed => 4

theorem Phase.rank_le (p : Phase) : p.rank ≤ 4 := by
  cases p <;> simp [rank]

theorem Phase.rank_le_of_canSend {p : Phase} (h : p.canSend = true) : p.rank ≤ 2 := by
  obtain ⟨since, rfl⟩ := canSend_iff.mp h
  exact Nat.le_refl 2

theorem Phase.canSend_of_rank {p : Phase} (h : 2 ≤ p.rank) (h' : p.rank ≤ 2) : p.canSend = true := by
  cases p <;> simp_all [rank, canSend]

theorem Phase.canSend_of_over {p : Phase} (h : 2 < p.rank) : p.canSend = false := by
  cases p <;> simp_all [rank, canSend]

theorem Session.open_of_rank {s : Session} (h : s.phase.rank ≤ 2) : s.isClosed = false := by
  cases hp : s.phase <;> simp_all [isClosed, Phase.isClosed, Phase.rank]

theorem Session.open_of_canSend {s : Session} (h : s.phase.canSend = true) :
    s.isClosed = false := by
  obtain ⟨since, established⟩ := Phase.canSend_iff.mp h
  simp [isClosed, established, Phase.isClosed]

theorem Passage.forward {l l' : Life} {ops : List Operation} (h : Passage l ops l') :
    l'.role = l.role ∧ l.phase.rank ≤ l'.phase.rank := by
  cases h with
  | ends => exact ⟨rfl, l.phase.rank_le⟩
  | drops => exact ⟨rfl, Phase.rank_le _⟩
  | _ => simp [Phase.rank]

theorem Move.forward {now : Nat} {x y : Scene} {m : List Note} (h : Move now x m y) :
    y.session.role = x.session.role ∧ x.session.phase.rank ≤ y.session.phase.rank := by
  obtain ⟨l, learns, passes⟩ := h.life
  cases learns with
  | nothing => exact passes.forward
  | upgrade hm hc hp =>
    refine ⟨passes.forward.1, Nat.le_trans ?_ passes.forward.2⟩
    simp [hp, Phase.rank]

theorem Path.forward {x y : Scene} {l : List Note} (h : Path x l y) :
    y.session.role = x.session.role ∧ x.session.phase.rank ≤ y.session.phase.rank := by
  induction h with
  | refl => exact ⟨rfl, Nat.le_refl _⟩
  | snoc _ hm ih => exact ⟨hm.forward.1.trans ih.1, Nat.le_trans ih.2 hm.forward.2⟩

/-- What is left of a course once a session is closed: no hook but those that outlive it, and the
one forced close if there was none. -/
structure Epilogue (forced : Bool) (y : Scene) (l : List Note) : Prop where
  closed : y.session.phase = .closed
  quiet : ∀ hook, .did (.entered hook) ∈ l → hook.outlives = true
  last : dropped forced ++ operations l = dropped y.session.forced

theorem Passage.closed {l l' : Life} {ops : List Operation} (h : Passage l ops l')
    (hc : l.phase = .closed) :
    l'.phase = .closed ∧ dropped l.forced ++ ops = dropped l'.forced := by
  cases h with
  | stays => exact ⟨hc, by simp⟩
  | ends => exact ⟨rfl, by simp⟩
  | drops => exact ⟨rfl, rfl⟩
  | _ => cases hc

theorem Session.Step.Passes.quiet_notes {s : Session} {x : Session.Step} (h : x.Passes s)
    (hook : Hook) : .did (.entered hook) ∉ x.notes :=
  fun hm => h.quiet hook (Session.Step.mem_notes.mp hm)

theorem Move.quiet {now : Nat} {x y : Scene} {m : List Note} (h : Move now x m y)
    (hc : x.session.phase = .closed) {hook : Hook} (hm : .did (.entered hook) ∈ m) :
    hook.outlives = true := by
  cases h with
  | act now a s k ha =>
    exact absurd (by simpa using hm) ((a.effect_passes now s ha).quiet_notes hook)
  | absorb now c s k =>
    exact absurd (by simpa using hm) ((s.absorb_passes now c).quiet_notes hook)
  | enter hook' s k h =>
    obtain rfl : hook = hook' := by simpa using hm
    exact h.resolve_right fun hn => hn hc
  | ask => simp at hm
  | answer now loan draft s k =>
    exact absurd (by simpa using hm)
      (((s.restore draft.output).resume_passes now loan.completion draft).quiet_notes hook)
  | flush s k => exact absurd hm ((s.flush_passes true).quiet_notes hook)
  | reach => simp at hm

theorem Move.epilogue {now : Nat} {x y : Scene} {l m : List Note} {forced : Bool}
    (h : Move now x m y) (he : Epilogue forced x l) : Epilogue forced y (l ++ m) := by
  obtain ⟨life, learns, passes⟩ := h.life
  have hc : life.phase = .closed ∧ life.forced = x.session.forced := by
    cases learns with
    | nothing => exact ⟨he.closed, rfl⟩
    | upgrade _ _ hp => exact nomatch hp.symm.trans he.closed
  obtain ⟨closed, last⟩ := passes.closed hc.1
  refine ⟨closed, fun hook hm => ?_, ?_⟩
  · rcases List.mem_append.mp hm with hm | hm
    · exact he.quiet hook hm
    · exact h.quiet he.closed hm
  · rw [operations_append, ← List.append_assoc, he.last, ← hc.2]
    exact last

/-- A closed session stays closed, hears of nothing and is dropped at most once. -/
theorem Path.epilogue {x y : Scene} {l : List Note} (h : Path x l y)
    (hc : x.session.phase = .closed) : Epilogue x.session.forced y l :=
  h.keeps (P := Epilogue x.session.forced) (fun _ _ _ _ ih hm => hm.epilogue ih)
    ⟨hc, by simp, by simp [operations]⟩

theorem dropped_cases {forced forced' : Bool} {ops : List Operation}
    (h : dropped forced ++ ops = dropped forced') : ops = [] ∨ ops = [.forceClose] := by
  cases forced <;> cases forced' <;> simp_all [dropped]

/-- Whatever its handler does and in whatever order completions come, a session only goes forward,
issues its operations in one order, and is over once it is closed. -/
theorem Handler.course_lives {σ : Type} (h : Handler σ) (depth : Nat) {s₀ : Session}
    (h₀ : s₀.Fresh) (shared : σ) (ms : List (Moment σ)) :
    (∀ s r s' r', (h.course depth s₀ shared ms).Shows s r →
      (h.course depth s₀ shared ms).Shows s' r' → r <+: r' → s.phase.rank ≤ s'.phase.rank) ∧
    (∀ s r, (h.course depth s₀ shared ms).Shows s r →
      ∃ opening frames closing dropping, Stages s₀.role r opening frames closing dropping) ∧
    ∀ s r, (h.course depth s₀ shared ms).Shows s r → s.phase = .closed →
      ∃ rest, (h.course depth s₀ shared ms).record = r ++ rest ∧
        (∀ hook, .did (.entered hook) ∈ rest → hook.outlives = true) ∧
        (operations rest = [] ∨ operations rest = [.forceClose]) := by
  refine ⟨fun s r s' r' hs hs' hr => ?_, fun s r hs => ?_, fun s r hs hc => ?_⟩
  · obtain ⟨_, _, _, _, hp⟩ := hs.between hs' hr
    exact hp.forward.2
  · obtain ⟨k, hp⟩ := hs.path
    obtain ⟨opening, frames, closing, stages, -⟩ := (hp.living (.fresh h₀)).stages
    have role : s.role = s₀.role := hp.forward.1
    exact ⟨opening, frames, closing, _, by rw [← role]; exact stages⟩
  · obtain ⟨k, rest, hr, -, hp⟩ := hs.through
    have epilogue := hp.epilogue hc
    exact ⟨rest, hr, epilogue.quiet, dropped_cases epilogue.last⟩

/-- A session that closes while a message is on its way back, and whose peer is gone by then. -/
def parting : List (Moment Unit) :=
  [.accept {}, .complete (.accepted (.ok ())), .complete (.read (.ok ⟨.text, [104, 105]⟩)),
    .close .normal, .push [33], .complete (.closed (.ok ())),
    .complete (.written (.error .aborted)), .forceClose, .complete (.control .close []),
    .finish].map .plain

theorem parting_lives :
    Session.Fresh (.server 0 {}) ∧
      (Handler.echo.course 2 (.server 0 {}) () parting).session.phase = .closed ∧
      (∃ opening frames closing dropping,
        Stages .server (Handler.echo.course 2 (.server 0 {}) () parting).record
          opening frames closing dropping) ∧
      operations (Handler.echo.course 2 (.server 0 {}) () parting).record =
        [.accept {}, .read, .write .text [104, 105], .close .normal, .forceClose] := by
  have lives := Handler.echo.course_lives 2 (.server 0 {}) () parting
  exact ⟨.server 0 {}, by decide +kernel, lives.2.1 _ _ .last, by decide +kernel⟩

end Parley

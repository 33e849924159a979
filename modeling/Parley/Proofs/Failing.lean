import Parley.Proofs.Issuing
import Parley.Proofs.LifeCycle

namespace Parley

def Note.failure? : Note → Option (String × TransportError)
  | .began _ _ (.complete c) => c.failure?
  | _ => none

/-- The session reported the failure that came as its record was this long. -/
def Reported (r p : List Note) : Prop :=
  ∃ n op error q, r = p ++ n :: .did (.warned (.sessionFailed op error)) :: q ∧ n.failure?.isSome

/-- Over, with no wait pending. -/
structure Session.Stopped (s : Session) : Prop where
  closed : s.phase = .closed
  idle : ∀ d ∈ s.watchdog, d.isWaiting = false

/-- Failures end a session for good. Another warning of a failed session is one that its handler
made. -/
structure Turn.FailsOnce {σ : Type} (t : Turn σ) : Prop where
  stops : ∀ p n failure, n.failure? = some failure → ∀ s m, t.Shows s (p ++ n :: m) →
    (∀ n' ∈ m, n'.session? = none) → s.Stopped
  drops : ∀ p n op error, n.failure? = some (op, error) → error ≠ .aborted →
    ∀ s m, t.Shows s (p ++ n :: m) → (operations (p ++ n :: m)).count .forceClose = 1
  reports : ∀ p n q op error, t.record = p ++ n :: q → n.failure? = some (op, error) →
    (q.head? = some (.did (.warned (.sessionFailed op error))) ↔
      (∀ s ∈ n.session?, s.phase ≠ .closed) ∧ ∃ text, error = .failure text)
  once : ∀ p p', Reported t.record p → Reported t.record p' → p = p'
  owned : ∀ p op error q, t.record = p ++ .did (.warned (.sessionFailed op error)) :: q →
    ∃ p' now s a, p = p' ++ [.began now s a] ∧
      (a = .warn (.sessionFailed op error) ∨
        (Note.began now s a).failure? = some (op, error))

namespace Session

theorem forceClose_forced (s : Session) : s.forceClose.session.forced = true := by
  unfold forceClose
  split
  · assumption
  · rfl

theorem terminate_stopped (s : Session) : s.terminate.Stopped := by
  refine ⟨rfl, fun d hd => ?_⟩
  obtain ⟨d', -, rfl⟩ := Option.map_eq_some_iff.mp hd
  rfl

theorem forceClose_stopped (s : Session) : s.forceClose.session.Stopped := by
  unfold forceClose
  split <;> exact terminate_stopped _

theorem fail_stopped (op : String) (error : TransportError) (s : Session) :
    (s.fail op error).session.Stopped := by
  unfold fail
  dsimp only
  split
  · exact s.terminate_stopped
  · exact s.forceClose_stopped

theorem fail_forced (op : String) {error : TransportError} (h : error ≠ .aborted) (s : Session) :
    (s.fail op error).session.forced = true := by
  simp only [fail, if_neg h]
  exact s.forceClose_forced

/-- Only a failure that ends a live session is worth a report. -/
theorem complaint_eq (op : String) (error : TransportError) (s : Session) :
    (s.complaint op error = [.warned (.sessionFailed op error)] ∧
      s.phase ≠ .closed ∧ ∃ text, error = .failure text) ∨
    (s.complaint op error = [] ∧ ¬(s.phase ≠ .closed ∧ ∃ text, error = .failure text)) := by
  unfold complaint isClosed
  cases hp : s.phase <;> cases error <;> simp [Phase.isClosed, TransportError.isSilent]

end Session

theorem Note.of_failure {n : Note} {failure : String × TransportError}
    (h : n.failure? = some failure) :
    ∃ now s c, n = .began now s (.complete c) ∧ c.failure? = some failure := by
  unfold Note.failure? at h
  split at h
  · exact ⟨_, _, _, rfl, h⟩
  · cases h

/-- A move that brings a failure does what follows from it, and nothing else. -/
theorem Move.fails {now : Nat} {x y : Scene} {n : Note} {m : List Note} {op : String}
    {error : TransportError} (h : Move now x (n :: m) y) (hn : n.failure? = some (op, error)) :
    ∃ s' : Session, s'.life = x.session.life ∧
      m = (s'.fail op error).notes ∧ y.session = (s'.fail op error).session := by
  obtain ⟨t, s, c, rfl, hc⟩ := Note.of_failure hn
  obtain ⟨rfl, rfl, done⟩ := h.began
  obtain ⟨hm, hy⟩ := done (Session.asks_failure hc x.session)
  simp only [Action.effect, Session.absorb_failure hc] at hm hy
  exact ⟨_, Session.received_life c x.session, hm, hy⟩

theorem Session.Step.notes_ne {x : Session.Step} (h : ∀ event ∈ x.events, ∃ op, event = .issued op)
    (p q : List Note) (w : Warning) : x.notes ≠ p ++ .did (.warned w) :: q := by
  intro hx
  obtain ⟨op, he⟩ := h (.warned w) (Session.Step.mem_notes.mp (by rw [hx]; simp))
  cases he

/-- A report is the second line of its move, and the first one says where it comes from. -/
theorem Move.warns {now : Nat} {x y : Scene} {m p q : List Note} {op : String}
    {error : TransportError} (h : Move now x m y)
    (hm : m = p ++ .did (.warned (.sessionFailed op error)) :: q) :
    ∃ a, p = [.began now x.session a] ∧ (a = .warn (.sessionFailed op error) ∨
      (Note.began now x.session a).failure? = some (op, error) ∧
        x.session.phase ≠ .closed ∧ ∃ text, error = .failure text) := by
  cases h with
  | act now a s k ha =>
    rcases List.cons_eq_append_iff.mp hm with ⟨-, hd⟩ | ⟨p, rfl, hp⟩
    · cases hd
    have told : .warned (.sessionFailed op error) ∈ (a.effect now s).events :=
      Session.Step.mem_notes.mp (by rw [hp]; simp)
    rcases a.effect_remark now s ha told with ⟨_, ⟨⟩⟩ | ⟨remark, alone⟩
    simp only [Session.Step.notes, alone, List.map_cons, List.map_nil] at hp
    obtain ⟨rfl, -⟩ : p = [] ∧ q = [] := by
      cases p <;> simp_all
    refine ⟨a, rfl, .inl ?_⟩
    cases a <;> cases remark
    rfl
  | absorb now c s k ha =>
    rcases List.cons_eq_append_iff.mp hm with ⟨-, hd⟩ | ⟨p, rfl, hp⟩
    · cases hd
    cases hc : c.failure? with
    | none => exact absurd hp (Session.Step.notes_ne (s.absorb_tells now hc).only _ _ _)
    | some failure =>
      obtain ⟨op', error'⟩ := failure
      have silent := Session.Step.notes_ne ((s.received c).stopped_tells error').only
      rw [Session.absorb_failure hc, Session.fail_eq, Session.Step.notes, List.map_append] at hp
      rcases (s.received c).complaint_eq op' error' with ⟨told, live⟩ | ⟨told, -⟩
      · rw [told, List.map_singleton, List.singleton_append] at hp
        rcases List.cons_eq_append_iff.mp hp with ⟨rfl, hd⟩ | ⟨p, rfl, late⟩
        · obtain ⟨⟨⟩, -⟩ := List.cons.inj hd
          rw [Session.received_phase] at live
          exact ⟨_, rfl, .inr ⟨hc, live⟩⟩
        · exact absurd late (silent _ _ _)
      · rw [told, List.map_nil, List.nil_append] at hp
        exact absurd hp (silent _ _ _)
  | enter | ask | reach => simp [List.cons_eq_append_iff] at hm
  | answer now loan draft s k =>
    rcases List.cons_eq_append_iff.mp hm with ⟨-, hd⟩ | ⟨p, rfl, hp⟩
    · cases hd
    · have only := Session.resume_only now loan.completion draft
      exact absurd hp (Session.Step.notes_ne (only _) _ _ _)
  | flush s k => exact absurd hm (Session.Step.notes_ne (s.flush_tells true).only _ _ _)

/-- A report in a record stands right behind the line that it comes from. -/
theorem Path.warns {x y : Scene} {r p q : List Note} {op : String} {error : TransportError}
    (h : Path x r y) (hr : r = p ++ .did (.warned (.sessionFailed op error)) :: q) :
    ∃ p' now s a, p = p' ++ [.began now s a] ∧ (a = .warn (.sessionFailed op error) ∨
      (Note.began now s a).failure? = some (op, error) ∧ s.phase ≠ .closed ∧
        ∃ text, error = .failure text) := by
  obtain ⟨r', p', q', now, z, z', -, move, rfl⟩ := h.cut hr
  obtain ⟨a, rfl, source⟩ := move.warns rfl
  exact ⟨r', now, z.session, a, rfl, source⟩

namespace Session

theorem flush_closed (nextRead : Bool) {s : Session} (h : s.phase = .closed) :
    s.flush nextRead = s.stay := by
  simp [flush, h, Phase.canSend]

theorem advance_closed (now : Nat) (nextRead : Bool) {s : Session} (h : s.phase = .closed) :
    s.advance now nextRead = s.stay := by
  simp [advance, isClosed, h, Phase.isClosed]

/-- An answer that comes too late wakes nothing. -/
theorem resume_stopped (now : Nat) (c : Completion) (draft : Draft) {s : Session} (h : s.Stopped) :
    (s.resume now c draft).session.Stopped := by
  unfold resume
  split
  · rw [advance_closed now true h.closed]
    exact h
  · rw [flush_closed draft.nextRead (s := { s with response := none }) h.closed]
    exact ⟨h.closed, h.idle⟩
  · rw [advance_closed now _ (by split <;> exact h.closed)]
    simp only [stay_session]
    split <;> exact ⟨h.closed, h.idle⟩
  · exact h

end Session

/-- Nothing but an action or a hook stirs a session that is over. -/
theorem Move.stopped {now : Nat} {x y : Scene} {m : List Note} (h : Move now x m y)
    (hx : x.session.Stopped) (hm : ∀ n ∈ m, n.session? = none) : y.session.Stopped := by
  cases h with
  | act | absorb | enter | ask => exact absurd (hm _ List.mem_cons_self) nofun
  | reach => exact ⟨hx.closed, hx.idle⟩
  | answer now loan draft s k =>
    exact Session.resume_stopped now loan.completion draft ⟨hx.closed, hx.idle⟩
  | flush s k =>
    rw [Session.write, Session.flush_closed true hx.closed]
    exact hx

theorem Path.stopped {x y : Scene} {l : List Note} (h : Path x l y) (hx : x.session.Stopped)
    (hl : ∀ n ∈ l, n.session? = none) : y.session.Stopped := by
  induction h with
  | refl => exact hx
  | snoc _ hm ih =>
    exact hm.stopped (ih fun n hn => hl n (List.mem_append_left _ hn))
      fun n hn => hl n (List.mem_append_right _ hn)

/-- A connection is dropped as often as its session says so. -/
theorem Stages.count_forceClose {role : Role} {r : List Note}
    {opening frames closing dropping : List Operation}
    (h : Stages role r opening frames closing dropping) :
    (operations r).count .forceClose = dropping.length := by
  have ho : Operation.forceClose ∉ opening := fun hm => by
    have := h.opens _ hm
    cases role <;> cases this
  have hf : Operation.forceClose ∉ frames := fun hm => nomatch h.framed _ hm
  have hc : Operation.forceClose ∉ closing := fun hm => nomatch h.closes _ hm
  rw [h.all, List.count_append, List.count_append, List.count_append,
    List.count_eq_zero_of_not_mem ho, List.count_eq_zero_of_not_mem hf,
    List.count_eq_zero_of_not_mem hc]
  rcases h.drops with rfl | rfl <;> rfl

/-- A failed completion in a path, with the session that it leaves and what comes after. -/
theorem Path.fails {x y : Scene} {p m : List Note} {n : Note} {op : String}
    {error : TransportError} (h : Path x (p ++ n :: m) y) (hn : n.failure? = some (op, error)) :
    ∃ (s s' : Session) (z : Scene) (q : List Note), n.session? = some s ∧
      s'.life = s.life ∧ z.session = (s'.fail op error).session ∧
      m = (s'.fail op error).notes ++ q ∧ Path z q y := by
  obtain ⟨_, s, c, rfl, -⟩ := Note.of_failure hn
  obtain ⟨k, now, m', z, q, -, move, rfl, rest⟩ := h.splits rfl rfl
  obtain ⟨s', life, rfl, hz⟩ := move.fails hn
  exact ⟨s, s', z, q, rfl, life, hz, rfl, rest⟩

/-- A report says that the session was live, and that the failure was one to tell of. -/
theorem Path.reported {x y : Scene} {r p q : List Note} {n : Note} {op op' : String}
    {error error' : TransportError} (h : Path x r y)
    (hr : r = p ++ n :: .did (.warned (.sessionFailed op error)) :: q)
    (hn : n.failure? = some (op', error')) :
    (∀ s ∈ n.session?, s.phase ≠ .closed) ∧ ∃ text, error = .failure text := by
  obtain ⟨p', now, s, a, hp, source⟩ := h.warns (p := p ++ [n]) (by simpa using hr)
  obtain ⟨-, he⟩ := List.append_inj' hp rfl
  obtain rfl := List.head_eq_of_cons_eq he
  obtain ⟨_, _, c, ⟨⟩, -⟩ := Note.of_failure hn
  obtain ⟨⟨⟩⟩ | ⟨-, live, told⟩ := source
  refine ⟨?_, told⟩
  rintro _ ⟨⟩
  exact live

/-- By the time of another report the session is over. -/
theorem Path.reports_first {x y : Scene} {r p p' : List Note} (h : Path x r y)
    (hp : Reported r p) (hp' : Reported r p') : ¬p.length < p'.length := by
  intro hl
  obtain ⟨n, op, error, q, hr, hn⟩ := hp
  obtain ⟨n', op', error', q', hr', hn'⟩ := hp'
  obtain ⟨failure, hn⟩ := Option.isSome_iff_exists.mp hn
  obtain ⟨failure', hn'⟩ := Option.isSome_iff_exists.mp hn'
  obtain ⟨live, -⟩ := h.reported hr' hn'
  obtain ⟨_, s, _, rfl, -⟩ := Note.of_failure hn'
  obtain ⟨k, first, -⟩ := h.split hr' rfl
  obtain ⟨m, rfl⟩ : ∃ m, p' = p ++ n :: m := by
    rcases List.append_eq_append_iff.mp (hr.symm.trans hr') with ⟨m, rfl, hm⟩ | ⟨m, rfl, -⟩
    · cases m with
      | nil => simp at hl
      | cons n m => exact ⟨m, by rw [(List.cons.inj hm).1]⟩
    · rw [List.length_append] at hl
      omega
  obtain ⟨-, s', z, l, -, -, hz, -, rest⟩ := first.fails hn
  refine live s rfl (rest.epilogue ?_).closed
  rw [hz]
  exact (s'.fail_stopped _ _).closed

/-- Whatever its handler does, the failures of its operations end a session for good. -/
theorem Handler.course_fails_once {σ : Type} (h : Handler σ) (depth : Nat) {s₀ : Session}
    (h₀ : s₀.Fresh) (shared : σ) (ms : List (Moment σ)) :
    (h.course depth s₀ shared ms).FailsOnce := by
  have whole := h.course_path depth s₀ shared ms
  constructor
  case stops =>
    intro p n failure hn s m shown hm
    obtain ⟨k, path⟩ := shown.path
    obtain ⟨-, s', z, q, -, -, hz, rfl, rest⟩ := path.fails hn
    refine rest.stopped ?_ fun n' hn' => hm n' (List.mem_append_right _ hn')
    rw [hz]
    exact s'.fail_stopped _ _
  case drops =>
    intro p n op error hn he s m shown
    obtain ⟨k, path⟩ := shown.path
    obtain ⟨opening, frames, closing, stages, -⟩ := (path.living (.fresh h₀)).stages
    obtain ⟨-, s', z, q, -, -, hz, -, rest⟩ := path.fails hn
    have last := (rest.epilogue (by rw [hz]; exact (s'.fail_stopped op error).closed)).last
    rw [hz, s'.fail_forced op he] at last
    rw [stages.count_forceClose]
    cases hf : s.forced with
    | true => simp [Session.life, hf, dropped]
    | false => simp [hf, dropped] at last
  case reports =>
    intro p n q op error hr hn
    rw [hr] at whole
    constructor
    · intro told
      obtain ⟨q, rfl⟩ := List.head?_eq_some_iff.mp told
      exact whole.reported rfl hn
    · rintro ⟨live, failure⟩
      obtain ⟨s, s', z, q, hs, life, hz, rfl, rest⟩ := whole.fails hn
      have phase : s'.phase = s.phase := congrArg Life.phase life
      rcases s'.complaint_eq op error with ⟨told, -⟩ | ⟨-, dead⟩
      · simp [Session.Step.notes, Session.fail_eq, told]
      · exact absurd ⟨by rw [phase]; exact live s hs, failure⟩ dead
  case once =>
    intro p p' hp hp'
    have length : p.length = p'.length :=
      Nat.le_antisymm (Nat.le_of_not_lt (whole.reports_first hp' hp))
        (Nat.le_of_not_lt (whole.reports_first hp hp'))
    obtain ⟨n, op, error, q, hr, -⟩ := hp
    obtain ⟨n', op', error', q', hr', -⟩ := hp'
    exact (List.append_inj (hr.symm.trans hr') length).1
  case owned =>
    intro p op error q hr
    obtain ⟨p', now, s, a, hp, source⟩ := whole.warns hr
    exact ⟨p', now, s, a, hp, source.imp_right And.left⟩

/-- A session whose ping fails while its answer to a message is on its way; the rest fails with
it. -/
def failing : List (Moment Unit) :=
  [.accept {}, .complete (.accepted (.ok ())), .complete (.read (.ok ⟨.text, [104, 105]⟩)),
    .ping [],
    .complete (.pinged (.error (.failure "reset"))), .complete (.written (.error .closed)),
    .complete (.closed (.error (.failure "reset"))), .forceClose].map .plain

def failed : Turn Unit := Handler.echo.course 2 (.server 0 {}) () failing

theorem failed_once :
    Session.Fresh (.server 0 {}) ∧ ∃ p n q, failed.record = p ++ n :: q ∧
      n.failure? = some ("ping", .failure "reset") ∧ Reported failed.record p ∧
      (∀ p', Reported failed.record p' → p' = p) ∧
      (operations failed.record).count .forceClose = 1 := by
  have once : failed.FailsOnce := Handler.echo.course_fails_once 2 (.server 0 {}) () failing
  obtain ⟨n, q, hr, hn, live⟩ : ∃ n q, failed.record = failed.record.take 17 ++ n :: q ∧
      n.failure? = some ("ping", .failure "reset") ∧ ∀ s ∈ n.session?, s.phase ≠ .closed :=
    ⟨_, failed.record.drop 18, rfl, rfl, by rintro _ ⟨⟩; decide⟩
  have shown : failed.Shows failed.session (failed.record.take 17 ++ n :: q) := hr ▸ .last
  obtain ⟨q', rfl⟩ :=
    List.head?_eq_some_iff.mp ((once.reports _ n q _ _ hr hn).mpr ⟨live, _, rfl⟩)
  have reported : Reported failed.record (failed.record.take 17) :=
    ⟨n, _, _, q', hr, by rw [hn]; rfl⟩
  refine ⟨.server 0 {}, _, n, _, hr, hn, reported, fun p' h => once.once _ _ h reported, ?_⟩
  rw [hr]
  exact once.drops _ n _ _ hn nofun _ _ shown

end Parley

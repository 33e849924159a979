import Parley.Proofs.Frames
import Parley.Proofs.Watch

namespace Parley

def Note.isAborted : Note → Bool
  | .began _ _ (.complete c) => c.isAborted
  | _ => false

def Note.isCustomTimer : Note → Bool
  | .began _ _ (.launchTimerWith _) => true
  | _ => false

/-- Nothing is reported aborted before the connection is dropped. -/
def AbortsLate (r : List Note) : Prop :=
  ∀ p n q, r = p ++ n :: q → n.isAborted = true → .forceClose ∈ operations p

/-- What the connection and the application keep to: completions are due and in order, and the
watchdog is left its own waits. -/
structure Orderly (r : List Note) : Prop where
  fair : Fair r
  in_order : InOrder r
  aborts : AbortsLate r
  own_waits : ∀ n ∈ r, n.isCustomTimer = false

/-- The close frame went out while a read was outstanding. -/
def Lingers (r : List Note) : Prop :=
  ∃ p now s q, r = p ++ .began now s (.complete (.closed (.ok ()))) :: q ∧ 0 < outstanding .read p

instance (r : List Note) : Decidable (AbortsLate r) :=
  decidable_of_iff _
    (forall_split_iff (fun p (n : Note) => n.isAborted = true → .forceClose ∈ operations p) r).symm

theorem Orderly.left {r m : List Note} (h : Orderly (r ++ m)) : Orderly r where
  fair := h.fair.left
  in_order p hp := h.in_order p (hp.trans (List.prefix_append r m))
  aborts p n q he := h.aborts p n (q ++ m) (by simp [he])
  own_waits n hn := h.own_waits n (List.mem_append_left m hn)

/-- The accounts of a session that agree with an orderly record. -/
structure Sober (s : Session) (r : List Note) : Prop where
  books : Tallied s r
  life : Living s.life r
  owes : s.pending ≤ owed r

theorem Sober.fresh {s : Session} (h : s.Fresh) : Sober s [] :=
  ⟨.fresh h, .fresh h, by cases h <;> exact Nat.le_refl _⟩

theorem Move.sober {now : Nat} {x y : Scene} {r m : List Note} (h : Move now x m y)
    (hs : Sober x.session r) (hf : Fair (r ++ m)) : Sober y.session (r ++ m) :=
  ⟨h.tallied hs.books hf, h.living hs.life, h.owes hs.owes hf⟩

theorem Sober.readable_iff {s : Session} {r : List Note} (h : Sober s r) (hf : Fair r) :
    s.readable = true ↔ outstanding .read r = 0 := by
  have reads := h.books.reads
  have := hf.outstanding_add .read
  cases hr : s.readable <;> simp [hr] at reads ⊢ <;> omega

/-- No move of an orderly record leaves a session unwatched that was watched. -/
theorem Move.watched {now : Nat} {x y : Scene} {r m : List Note} (h : Move now x m y)
    (hs : Sober x.session r) (hw : x.session.Watched) (ho : Orderly (r ++ m)) :
    y.session.Watched := by
  cases h with
  | act now a s k hc =>
    refine a.effect_watched now hw hc fun body he => ?_
    subst he
    simpa [Note.isCustomTimer] using ho.own_waits (.began now s (.launchTimerWith body)) (by simp)
  | absorb now c s k =>
    refine s.absorb_watched now hw (fun ha => ?_) fun hc hr => ?_
    · exact hs.life.forced_iff.mpr (ho.aborts r _ _ rfl ha)
    · subst hc
      have unread := (hs.readable_iff ho.left.fair).mp hr
      rw [List.append_cons] at ho
      have one_left := hs.life.left_at_close ho.left.fair ho.left.in_order
      have owes : s.pending ≤ inAll (outstanding · r) := hs.owes
      change s.pending - 1 = 0
      omega
  | enter hook s k => exact hw
  | ask now c hook s k ha => exact Session.asking_watched now hw ha
  | answer now loan draft s k =>
    exact Session.resume_watched now loan.completion draft (hw.of_lookout rfl)
  | flush s k => exact Session.flush_watched true hw
  | reach held s k => exact hw.of_lookout rfl

theorem Move.absorbed {now now' : Nat} {x y : Scene} {q : List Note} {s : Session} {c : Completion}
    (h : Move now' x (.began now s (.complete c) :: q) y) (ha : s.asks c = none) :
    y.session = (s.absorb now c).session := by
  obtain ⟨rfl, -, does⟩ := h.began
  exact (does ha).2

/-- A session that still reads when its close frame is out is on guard from then on. -/
theorem Move.lingers {now : Nat} {x y : Scene} {r m : List Note} (h : Move now x m y)
    (hs : Sober x.session r) (hf : Fair r) (hl : Lingers (r ++ m)) (hn : ¬Lingers r) :
    y.session.Watched := by
  obtain ⟨p, now, s, q, he, hr⟩ := hl
  -- The close frame goes out in this very move, which begins with it.
  rcases h.line he rfl with ⟨rfl, rfl, rfl⟩ | ⟨q', rfl, -⟩
  swap
  · exact absurd ⟨p, now, s, q', rfl, hr⟩ hn
  have unread : x.session.readable = false := by
    have := mt (hs.readable_iff hf).mp (by omega)
    simpa using this
  rw [h.absorbed rfl]
  simp only [Session.absorb, Session.received, unread, Session.stay_session, Bool.false_eq_true,
    if_false]
  exact .guarded (Session.awaitAnswer_guarded _ _ _)

/-- Along an orderly record a session is watched that has a watchdog from the start, or lingers. -/
theorem Path.watched {x y : Scene} {r : List Note} (h : Path x r y) (hs : Sober x.session [])
    (hw : x.session.watchdog.isSome = true → x.session.Watched) (ho : Orderly r) :
    Sober y.session r ∧
      (x.session.watchdog.isSome = true ∨ Lingers r → y.session.Watched) := by
  have kept := h.keeps
    (P := fun y r => Orderly r → Sober y.session r ∧
      (x.session.watchdog.isSome = true ∨ Lingers r → y.session.Watched))
    (fun y r m z ih hm ho => ?_) (fun _ => ⟨hs, ?_⟩)
  · exact kept ho
  · obtain ⟨sober, watched⟩ := ih ho.left
    refine ⟨hm.sober sober ho.fair, fun hg => ?_⟩
    by_cases early : x.session.watchdog.isSome = true ∨ Lingers r
    · exact hm.watched sober (watched early) ho
    · rw [not_or] at early
      exact hm.lingers sober ho.left.fair (hg.resolve_left early.1) early.2
  · rintro (hd | ⟨p, now, s, q, he, -⟩)
    · exact hw hd
    · simp at he

/-- Sessions that are watched: a server and a client that keeps alive always, any other client once
it lingers. -/
inductive Session.Minded (r : List Note) : Session → Prop
  | server (id : SessionId) (config : SessionConfig) : Minded r (.server id config)
  | client (id : SessionId) (config : ClientConfig) (h : config.keepalive = true) :
    Minded r (.client id config)
  | lingering (id : SessionId) (config : ClientConfig) (h : Lingers r) :
    Minded r (.client id config)

theorem Session.Minded.fresh {s : Session} {r : List Note} (h : s.Minded r) : s.Fresh := by
  cases h with
  | server id config => exact .server id config
  | client id config | lingering id config => exact .client id config

theorem Session.Fresh.watched {s : Session} (h : s.Fresh) (hd : s.watchdog.isSome = true) :
    s.Watched := by
  cases h <;> exact .unborn rfl rfl hd

namespace Turn

variable {σ : Type}

/-- The session is closed and its connection dropped. -/
def Fallen (t : Turn σ) : Prop := t.session.phase = .closed ∧ .forceClose ∈ operations t.record

/-- The watchdog fires at its deadline, whatever the clock says. -/
def strike (host : Host σ) (now : Nat) (t : Turn σ) : Turn σ :=
  match t.session.deadline with
  | some deadline => { t with now }.perform host (.fireTimer (some deadline))
  | none => t

/-- A watchdog that fires once, or twice in a row, ends the session. -/
def Falls (t : Turn σ) : Prop :=
  ∀ (host : Host σ) (now now' : Nat),
    (t.strike host now).Fallen ∨
      (t.strike host now).session.phase ≠ .closed ∧ ((t.strike host now).strike host now').Fallen

theorem deadline_eq {s : Session} {expiry : Nat} {action : TimerAction}
    (hd : s.watchdog = some ⟨some expiry, some action⟩) : s.deadline = some expiry := by
  simp [Session.deadline, hd, Watchdog.deadline, Watchdog.isWaiting]

theorem strike_eq (host : Host σ) (now : Nat) {t : Turn σ} {expiry : Nat} {action : TimerAction}
    (hd : t.session.watchdog = some ⟨some expiry, some action⟩)
    (ha : ∀ body, action ≠ .custom body) :
    (t.strike host now).session = (t.session.fire now expiry).session ∧
      (t.strike host now).record =
        t.record ++ .began now t.session (.fireTimer (some expiry)) ::
          (t.session.fire now expiry).notes := by
  simp only [strike, deadline_eq hd, perform, carryOut, note, fireTimer, Session.fire, Session.poll,
    hd, Watchdog.poll, Option.getD_some, if_pos (Nat.le_refl expiry)]
  cases action with
  | custom body => exact absurd rfl (ha body)
  | forceClose => simp [step, Session.Step.notes]
  | probe =>
    dsimp only
    split <;> simp [step, update, Session.Step.notes]

theorem fallen_of_forceClose {t : Turn σ} {s : Session} {r : List Note}
    (hs : t.session = s.forceClose.session) (hr : t.record = r ++ s.forceClose.notes)
    (hf : s.forced = false) : t.Fallen := by
  have dropped : s.forceClose = Session.issue (Session.terminate { s with forced := true })
      .forceClose := by
    simp [Session.forceClose, hf]
  rw [dropped] at hs hr
  refine ⟨by rw [hs]; rfl, ?_⟩
  rw [hr, mem_operations]
  exact List.mem_append_right r List.mem_cons_self

theorem strike_probing (host : Host σ) (now : Nat) {t : Turn σ} {expiry : Nat}
    (hd : t.session.watchdog = some ⟨some expiry, some .forceClose⟩)
    (hf : t.session.forced = false) : (t.strike host now).Fallen := by
  obtain ⟨hs, hr⟩ := strike_eq host now hd nofun
  rw [Session.fire_probing hd now (Nat.le_refl _)] at hs hr
  rw [List.append_cons] at hr
  exact fallen_of_forceClose hs hr hf

/-- A watchdog on guard drops the connection in one stage or two. -/
theorem falls_of_guarded {t : Turn σ} (hg : t.session.Guarded) (hf : t.session.forced = false) :
    t.Falls := by
  intro host now now'
  obtain ⟨dog, hd, hg⟩ := hg
  cases hg with
  | probing expiry => exact .inl (strike_probing host now hd hf)
  | idle expiry =>
    obtain ⟨hs, hr⟩ := strike_eq host now hd nofun
    rcases Session.fire_idle hd now (Nat.le_refl _) with ⟨hc, fires⟩ | ⟨-, fires⟩
    · rw [fires] at hs
      obtain ⟨since, hp⟩ := Phase.canSend_iff.mp hc
      have probing : (t.strike host now).session.watchdog =
          some ⟨some (now + t.session.config.probe), some .forceClose⟩ := by
        rw [hs]
        rfl
      refine .inr ⟨?_, strike_probing host now' probing ?_⟩
      · rw [hs, show Session.phase _ = t.session.phase from rfl, hp]
        nofun
      · rw [hs]
        exact hf
    · rw [fires] at hs hr
      rw [List.append_cons] at hr
      exact .inl (fallen_of_forceClose hs hr hf)

end Turn

/-- A session that waits for anything and has not dropped its connection knows when its watchdog is
due; and a watchdog that is due once, or twice in a row, drops it. -/
theorem Handler.course_watched {σ : Type} (h : Handler σ) (depth : Nat) {s₀ s : Session}
    (shared : σ) (ms : List (Moment σ)) {r : List Note}
    (hs : (h.course depth s₀ shared ms).Shows s r) (hm : s₀.Minded r) (ho : Orderly r)
    (hp : 0 < s.pending) (hf : .forceClose ∉ operations r) :
    (∃ deadline, s.deadline = some deadline) ∧
      ∀ t : Turn σ, t.session = s → t.record = r → t.Falls := by
  obtain ⟨k, path⟩ := hs.path
  obtain ⟨sober, watched⟩ := path.watched (.fresh hm.fresh) hm.fresh.watched ho
  have unforced : s.forced = false := Bool.eq_false_iff.mpr (mt sober.life.forced_iff.mp hf)
  have minded : s₀.watchdog.isSome = true ∨ Lingers r := by
    cases hm with
    | server => exact .inl rfl
    | client id config hk => exact .inl (by simp [Session.client, hk])
    | lingering id config hl => exact .inr hl
  have guarded : s.Guarded := by
    cases watched minded with
    | guarded dog => exact dog
    | dropped _ forced => exact absurd forced (by simp [unforced])
    | unborn _ idle | settled _ idle => exact absurd idle (Nat.pos_iff_ne_zero.mp hp)
  refine ⟨?_, fun t ht _ => ?_⟩
  · obtain ⟨dog, hd, hg⟩ := guarded
    cases hg with
    | idle expiry | probing expiry => exact ⟨expiry, Turn.deadline_eq hd⟩
  · subst ht
    exact Turn.falls_of_guarded guarded unforced

/-- A client that does not keep alive, and closes while it waits for a message. -/
def leaving : List (Moment Unit) :=
  [.connected, .complete (.handshaked (.ok ⟨101, []⟩)), .read, .close .normal,
    .complete (.closed (.ok ()))].map .plain

theorem leaving_watched :
    Session.Minded (Handler.standard.course 2 (.client 0 {}) () leaving).record (.client 0 {}) ∧
      Orderly (Handler.standard.course 2 (.client 0 {}) () leaving).record ∧
      (Handler.standard.course 2 (.client 0 {}) () leaving).session.pending = 1 ∧
      .forceClose ∉ operations (Handler.standard.course 2 (.client 0 {}) () leaving).record ∧
      (Handler.standard.course 2 (.client 0 {}) () leaving).session.deadline = some 10000 ∧
      (Handler.standard.course 2 (.client 0 {}) () leaving).Falls := by
  have lingers : Lingers (Handler.standard.course 2 (.client 0 {}) () leaving).record :=
    ⟨(Handler.standard.course 2 (.client 0 {}) () leaving).record.dropLast, 0, _, [], rfl,
      by decide +kernel⟩
  have orderly : Orderly (Handler.standard.course 2 (.client 0 {}) () leaving).record :=
    ⟨by decide +kernel, by decide +kernel, by decide +kernel, by decide +kernel⟩
  have pending : (Handler.standard.course 2 (.client 0 {}) () leaving).session.pending = 1 := by
    decide +kernel
  have unforced :
      .forceClose ∉ operations (Handler.standard.course 2 (.client 0 {}) () leaving).record := by
    decide +kernel
  have watched := Handler.standard.course_watched 2 () leaving .last (.lingering 0 {} lingers)
    orderly (by rw [pending]; exact Nat.one_pos) unforced
  exact ⟨.lingering 0 {} lingers, orderly, pending, unforced, by decide +kernel,
    watched.2 _ rfl rfl⟩

end Parley

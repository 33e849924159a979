import Parley.Proofs.Course

namespace Parley

/-- A watchdog that is due at some time, and probes the peer or drops the connection then. -/
inductive Watchdog.OnGuard : Watchdog → Prop
  | idle (expiry : Nat) : OnGuard ⟨some expiry, some .probe⟩
  | probing (expiry : Nat) : OnGuard ⟨some expiry, some .forceClose⟩

theorem Watchdog.OnGuard.arm {d : Watchdog} (h : d.OnGuard) (expiry : Nat) :
    (d.arm expiry).OnGuard := by
  cases h with
  | idle => exact .idle expiry
  | probing => exact .probing expiry

theorem Watchdog.OnGuard.probe {d : Watchdog} (h : d.OnGuard) : (d.launch .probe).OnGuard := by
  cases h <;> exact .idle _

/-- What an aborted operation reports. -/
def Completion.isAborted : Completion → Bool
  | .accepted (.error .aborted) | .handshaked (.error .aborted) | .read (.error .aborted)
  | .written (.error .aborted) | .pinged (.error .aborted) | .ponged (.error .aborted)
  | .closed (.error .aborted) => true
  | _ => false

namespace Session

def Guarded (s : Session) : Prop := ∃ dog, s.watchdog = some dog ∧ dog.OnGuard

/-- No session hangs: its watchdog is on guard, or there is nothing to wait for. -/
inductive Watched (s : Session) : Prop
  | unborn (created : s.phase = .created) (idle : s.pending = 0) (dog : s.watchdog.isSome = true)
  | guarded (dog : s.Guarded)
  | dropped (closed : s.phase = .closed) (forced : s.forced = true)
  | settled (closed : s.phase = .closed) (idle : s.pending = 0)

/-- The part of a session that tells whether it is watched. -/
def lookout (s : Session) : Phase × Nat × Bool × Option Watchdog :=
  (s.phase, s.pending, s.forced, s.watchdog)

namespace Watched

variable {s s' : Session}

/-- A session in the same phase stays watched that waits for no more and is no less on guard. -/
theorem carry (h : s.Watched) (hp : s'.phase = s.phase) (hn : s'.pending ≤ s.pending)
    (hf : s'.forced = s.forced) (hd : s.watchdog.isSome = true → s'.watchdog.isSome = true)
    (hg : s.Guarded → s'.Guarded) : s'.Watched := by
  cases h with
  | unborn created idle dog => exact .unborn (hp.trans created) (by omega) (hd dog)
  | guarded dog => exact .guarded (hg dog)
  | dropped closed forced => exact .dropped (hp.trans closed) (hf.trans forced)
  | settled closed idle => exact .settled (hp.trans closed) (by omega)

theorem of_parts (h : s.Watched) (hp : s'.phase = s.phase) (hn : s'.pending ≤ s.pending)
    (hf : s'.forced = s.forced) (hd : s'.watchdog = s.watchdog) : s'.Watched :=
  h.carry hp hn hf (fun dog => by rw [hd]; exact dog) fun dog => by rw [Guarded, hd]; exact dog

theorem of_lookout (h : s.Watched) (he : s'.lookout = s.lookout) : s'.Watched := by
  simp only [lookout, Prod.mk.injEq] at he
  obtain ⟨hp, hn, hf, hd⟩ := he
  exact h.of_parts hp (Nat.le_of_eq hn) hf hd

/-- In the middle of its life a session is guarded. -/
theorem guard (h : s.Watched) (hb : s.phase ≠ .created) (hc : s.phase ≠ .closed) : s.Guarded := by
  cases h with
  | unborn created => exact absurd created hb
  | guarded dog => exact dog
  | dropped closed | settled closed => exact absurd closed hc

theorem sending (h : s.Watched) (hc : s.phase.canSend = true) : s.Guarded := by
  obtain ⟨since, hp⟩ := Phase.canSend_iff.mp hc
  exact h.guard (by simp [hp]) (by simp [hp])

theorem dog_isSome (h : s.Watched) (hc : s.phase ≠ .closed) : s.watchdog.isSome = true := by
  cases h with
  | unborn _ _ dog => exact dog
  | guarded dog =>
    obtain ⟨d, hd, -⟩ := dog
    simp [hd]
  | dropped closed | settled closed => exact absurd closed hc

end Watched

theorem Guarded.armIdle {s : Session} (h : s.Guarded) (now : Nat) : (s.armIdle now).Guarded := by
  obtain ⟨dog, hd, hg⟩ := h
  exact ⟨dog.arm (now + s.config.idle), by simp [Session.armIdle, hd], hg.arm _⟩

theorem awaitAnswer_guarded (now : Nat) (d : Watchdog) (s : Session) :
    (s.awaitAnswer now d).Guarded :=
  ⟨_, rfl, .probing _⟩

/-- A sign of life puts on guard the watchdog that there is. -/
theorem keepalive_guarded (now : Nat) {s : Session} (hd : s.watchdog.isSome = true)
    (hc : s.phase ≠ .closed) : (s.keepalive now).Guarded := by
  obtain ⟨dog, hd⟩ := Option.isSome_iff_exists.mp hd
  have open_ : s.isClosed = false := by
    cases hp : s.phase <;> simp_all [isClosed, Phase.isClosed]
  exact ⟨(dog.arm (now + s.config.idle)).launch .probe, by simp [keepalive, open_, hd], .idle _⟩

theorem keepalive_watched (now : Nat) {s : Session} (h : s.Watched) :
    (s.keepalive now).Watched := by
  by_cases hc : s.phase = .closed
  · exact h.of_lookout (by simp [keepalive, isClosed, hc, Phase.isClosed])
  · exact .guarded (keepalive_guarded now (h.dog_isSome hc) hc)

theorem accept_watched (now : Nat) (policy : AcceptPolicy) {s : Session} (h : s.Watched) :
    (s.accept now policy).session.Watched := by
  unfold accept
  split
  · rename_i phase hr hp
    obtain ⟨hc, rfl⟩ := Phase.beginEstablish_ok hp
    exact .guarded (keepalive_guarded now (h.dog_isSome (by simp [hc])) (by simp))
  · exact h

theorem handshake_watched (now : Nat) (target : String) {s : Session} (h : s.Watched) :
    (s.handshake now target).session.Watched := by
  unfold handshake
  split
  · rename_i hr hp
    obtain ⟨hc, rfl⟩ := Phase.beginEstablish_ok hp
    exact .guarded (keepalive_guarded now (h.dog_isSome (by simp [hc])) (by simp))
  · exact h

theorem read_watched (now : Nat) {s : Session} (h : s.Watched) : (s.read now).session.Watched := by
  unfold read
  split
  · rename_i hc
    simp only [Bool.and_eq_true] at hc
    exact .guarded ((h.sending hc.2).armIdle now)
  · exact h

theorem flush_watched (nextRead : Bool) {s : Session} (h : s.Watched) :
    (s.flush nextRead).session.Watched := by
  unfold flush
  split
  · rename_i hc
    simp only [Bool.and_eq_true] at hc
    exact .guarded (h.sending hc.2)
  · exact h

theorem push_watched (data : Bytes) {s : Session} (h : s.Watched) :
    (s.push data).session.Watched :=
  flush_watched true (h.of_lookout rfl)

theorem ping_watched (now : Nat) (payload : Bytes) {s : Session} (h : s.Watched) :
    (s.ping now payload).session.Watched := by
  unfold ping
  split
  · rename_i hc
    exact .guarded ((h.sending hc).armIdle now)
  · exact h

theorem pong_watched (now : Nat) (payload : Bytes) {s : Session} (h : s.Watched) :
    (s.pong now payload).session.Watched := by
  unfold pong
  split
  · rename_i hc
    exact .guarded ((h.sending hc).armIdle now)
  · exact h

theorem close_watched (now : Nat) (reason : CloseReason) {s : Session} (h : s.Watched) :
    (s.close now reason).session.Watched := by
  unfold close
  split
  · rename_i hc hp
    obtain ⟨dog, hd, hg⟩ := h.sending hc
    exact .guarded (Guarded.armIdle ⟨dog, hd, hg⟩ now)
  · exact h

theorem forceClose_watched (s : Session) : s.forceClose.session.Watched := by
  unfold forceClose
  split
  · exact .dropped rfl ‹_›
  · exact .dropped rfl rfl

theorem fail_watched (op : String) {error : TransportError} {s : Session}
    (ha : error = .aborted → s.forced = true) : (s.fail op error).session.Watched := by
  unfold fail
  dsimp only
  split
  · rename_i he
    exact .dropped rfl (ha he)
  · exact s.forceClose_watched

theorem advance_watched (now : Nat) (nextRead : Bool) {s : Session} (h : s.Watched) :
    (s.advance now nextRead).session.Watched := by
  unfold advance
  split
  · exact h
  · split
    · exact flush_watched nextRead h
    · split
      · exact read_watched now h
      · exact h

/-- A session that cannot send keeps quiet when its watchdog fires, or drops its connection. -/
theorem fire_mute (now instant : Nat) {s : Session} (hc : s.phase.canSend = false) :
    ∃ w, w.isSome = s.watchdog.isSome ∧
      (s.fire now instant = stay { s with watchdog := w } ∨
        s.fire now instant = forceClose { s with watchdog := w }) := by
  cases hd : s.watchdog with
  | none =>
    have same : { s with watchdog := none } = s := by rw [← hd]
    exact ⟨none, rfl, .inl (by simp only [fire, poll, hd, same])⟩
  | some dog =>
    refine ⟨some (dog.poll instant).2, rfl, ?_⟩
    simp only [fire, poll, hd]
    split
    · exact .inl rfl
    · exact .inl rfl
    · exact .inr rfl
    · rw [if_neg (by simp [hc])]
      exact .inr rfl

/-- The first stage gives the peer one more window to answer, if it can be asked. -/
theorem fire_idle {s : Session} {expiry : Nat} (hd : s.watchdog = some ⟨some expiry, some .probe⟩)
    (now : Nat) {instant : Nat} (due : expiry ≤ instant) :
    s.phase.canSend = true ∧ s.fire now instant =
        issue (awaitAnswer now { expiry := now + s.config.idle }
          { s with pending := s.pending + 1 }) (.ping []) ∨
      s.phase.canSend = false ∧
        s.fire now instant = forceClose { s with watchdog := some { expiry } } := by
  simp only [fire, poll, hd, Watchdog.poll, if_pos due]
  cases hc : s.phase.canSend with
  | true => exact .inl ⟨rfl, by simp [ping, hc, armIdle, awaitAnswer, issue, Session.dog,
      Watchdog.cancel, Watchdog.arm, Watchdog.launch]⟩
  | false => exact .inr ⟨rfl, rfl⟩

/-- The second stage drops the connection. -/
theorem fire_probing {s : Session} {expiry : Nat}
    (hd : s.watchdog = some ⟨some expiry, some .forceClose⟩) (now : Nat) {instant : Nat}
    (due : expiry ≤ instant) :
    s.fire now instant = forceClose { s with watchdog := some { expiry } } := by
  simp only [fire, poll, hd, Watchdog.poll, if_pos due]
  rfl

theorem fire_early {s : Session} {dog : Watchdog} {expiry : Nat} (hd : s.watchdog = some dog)
    (he : dog.expiry = some expiry) (now : Nat) {instant : Nat} (early : ¬expiry ≤ instant) :
    s.fire now instant = s.stay := by
  have same : { s with watchdog := some dog } = s := by rw [← hd]
  simp only [fire, poll, hd, Watchdog.poll, he, if_neg early, same]

theorem fire_watched (now instant : Nat) {s : Session} (h : s.Watched) :
    (s.fire now instant).session.Watched := by
  have mute (hc : s.phase.canSend = false)
      (kept : ∀ w, w.isSome = s.watchdog.isSome → Watched { s with watchdog := w }) :
      (s.fire now instant).session.Watched := by
    obtain ⟨w, hw, hf | hf⟩ := fire_mute now instant hc
    · rw [hf]
      exact kept w hw
    · rw [hf]
      exact forceClose_watched _
  cases h with
  | unborn created idle dog =>
    exact mute (by rw [created]; rfl) fun w hw => .unborn created idle (hw.trans dog)
  | dropped closed forced => exact mute (by rw [closed]; rfl) fun _ _ => .dropped closed forced
  | settled closed idle => exact mute (by rw [closed]; rfl) fun _ _ => .settled closed idle
  | guarded guarded =>
    obtain ⟨dog, hd, hg⟩ := guarded
    have rests {expiry : Nat} (he : dog.expiry = some expiry) (early : ¬expiry ≤ instant) :
        (s.fire now instant).session.Watched := by
      rw [fire_early hd he now early]
      exact .guarded ⟨dog, hd, hg⟩
    cases hg with
    | idle expiry =>
      by_cases due : expiry ≤ instant
      · rcases fire_idle hd now due with ⟨-, hf⟩ | ⟨-, hf⟩ <;> rw [hf]
        · exact .guarded (awaitAnswer_guarded _ _ _)
        · exact forceClose_watched _
      · exact rests rfl due
    | probing expiry =>
      by_cases due : expiry ≤ instant
      · rw [fire_probing hd now due]
        exact forceClose_watched _
      · exact rests rfl due

theorem launchTimer_watched {s : Session} (h : s.Watched) : (s.launchTimer .probe).Watched := by
  refine h.carry rfl (Nat.le_refl _) rfl (fun _ => rfl) ?_
  rintro ⟨dog, hd, hg⟩
  exact ⟨dog.launch .probe, by simp [launchTimer, Session.dog, hd], hg.probe⟩

theorem armTimer_watched (now window : Nat) {s : Session} (h : s.Watched) :
    (s.armTimer now window).Watched := by
  refine h.carry rfl (Nat.le_refl _) rfl (fun _ => rfl) ?_
  rintro ⟨dog, hd, hg⟩
  exact ⟨dog.arm (now + window), by simp [armTimer, Session.dog, hd], hg.arm _⟩

theorem received_watched (c : Completion) {s : Session} (h : s.Watched) :
    (s.received c).Watched := by
  have less : (s.received c).pending ≤ s.pending := by
    cases c <;> simp [received]
  refine h.of_parts ?_ less ?_ ?_ <;> cases c <;> rfl

theorem peerActive_watched (now : Nat) {s : Session} (h : s.Watched) :
    (s.peerActive now).Watched := by
  refine h.carry rfl (Nat.le_refl _) rfl (fun hd => by simpa [peerActive] using hd) ?_
  rintro ⟨dog, hd, hg⟩
  refine ⟨_, congrArg (Option.map _) hd, ?_⟩
  dsimp only
  split
  · exact (hg.arm _).probe
  · exact hg.arm _

theorem asking_watched (now : Nat) {c : Completion} {hook : Bytes → Hook} {s : Session}
    (h : s.Watched) (ha : s.asks c = some hook) : (s.asking now c).lend.Watched := by
  have told := received_watched c h
  unfold asks at ha
  split at ha
  · split at ha
    · rename_i hp
      exact .guarded (told.guard (by simp [received, hp]) (by simp [received, hp]))
    · cases ha
  · split at ha
    · rename_i hp
      exact .guarded (keepalive_guarded now (told.dog_isSome (by simp [received, hp])) (by simp))
    · cases ha
  · exact (peerActive_watched now told).of_lookout rfl
  · cases ha

theorem resume_watched (now : Nat) (c : Completion) (draft : Draft) {s : Session} (h : s.Watched) :
    (s.resume now c draft).session.Watched := by
  unfold resume
  split
  · exact advance_watched now true h
  · exact flush_watched _ (h.of_lookout rfl)
  · refine advance_watched now _ (h.of_lookout ?_)
    split <;> rfl
  · exact h

/-- What a completion does that asks nobody keeps a session watched, if what was aborted was dropped
before and a close frame goes out after all other frames. -/
theorem absorb_watched (now : Nat) {c : Completion} {s : Session} (h : s.Watched)
    (ha : c.isAborted = true → s.forced = true)
    (hc : c = .closed (.ok ()) → s.readable = true → (s.received c).pending = 0) :
    (s.absorb now c).session.Watched := by
  have told := received_watched c h
  have failed {op : String} {e : TransportError} {s' : Session} (hs : s'.forced = s.forced)
      (he : e = .aborted → c.isAborted = true) : (s'.fail op e).session.Watched :=
    fail_watched op fun h => hs.trans (ha (he h))
  rcases c with (e | _) | (e | response) | (e | frame) | (e | n) | (e | _) | (e | _) | (e | _) |
    ⟨kind, payload⟩
  case accepted.error | handshaked.error | read.error | written.error | pinged.error |
      ponged.error | closed.error =>
    exact failed rfl fun he => by rw [he]; rfl
  case accepted.ok =>
    unfold absorb
    dsimp only
    split
    · rename_i hp
      exact advance_watched now true
        (.guarded (told.guard (by simp [received, hp]) (by simp [received, hp])))
    · exact told
  case handshaked.ok =>
    unfold absorb
    dsimp only
    split
    · rename_i hp
      exact flush_watched true (.guarded
        (keepalive_guarded now (told.dog_isSome (by simp [received, hp])) (by simp)))
    · exact told
  case read.ok | control => exact told
  case written.ok => exact advance_watched now _ told
  case pinged.ok | ponged.ok => exact read_watched now told
  case closed.ok =>
    unfold absorb
    dsimp only
    split
    · rename_i hr
      exact .settled rfl (hc rfl hr)
    · exact .guarded (awaitAnswer_guarded _ _ _)

end Session

theorem Command.effect_watched (now : Nat) {s : Session} (c : Command) (h : s.Watched) :
    (c.effect now s).session.Watched := by
  cases c with
  | push data => exact Session.push_watched data h
  | read => exact Session.read_watched now h
  | ping payload => exact Session.ping_watched now payload h
  | close reason => exact Session.close_watched now reason h
  | run => exact h

/-- Any action keeps a session watched that is neither a completion nor a timer of its own. -/
theorem Action.effect_watched (now : Nat) {s : Session} {a : Action} (h : s.Watched)
    (hc : ∀ c, a ≠ .complete c) (ht : ∀ body, a ≠ .launchTimerWith body) :
    (a.effect now s).session.Watched := by
  cases a with
  | accept policy => exact Session.accept_watched now policy h
  | handshake target => exact Session.handshake_watched now target h
  | read => exact Session.read_watched now h
  | write => exact Session.flush_watched true h
  | push data => exact Session.push_watched data h
  | ping payload => exact Session.ping_watched now payload h
  | pong payload => exact Session.pong_watched now payload h
  | close reason => exact Session.close_watched now reason h
  | forceClose => exact s.forceClose_watched
  | setFrameMode mode => cases mode <;> exact h.of_lookout rfl
  | launchTimer => exact Session.launchTimer_watched h
  | launchTimerWith body => exact absurd rfl (ht body)
  | armTimer window => exact Session.armTimer_watched now window h
  | keepalive => exact Session.keepalive_watched now h
  | fireTimer instant? => exact Session.fire_watched now _ h
  | apply c => exact c.effect_watched now h
  | complete c => exact absurd rfl (hc c)
  | transportLost => exact .settled rfl rfl
  | _ => exact h.of_lookout rfl

end Parley

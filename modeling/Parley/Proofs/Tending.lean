import Parley.Proofs.LifeCycle
import Parley.Proofs.Watch

namespace Parley

/-- Operations that move the deadline as they are issued. -/
def Operation.rearms : Operation → Bool
  | .read | .ping _ | .pong _ => true
  | _ => false

/-- Lines that set the watchdog of a session by hand. -/
def Note.setsTimer : Note → Bool
  | .began _ _ (.armTimer _) | .began _ _ (.launchTimerWith _) => true
  | _ => false

namespace Session

/-- One idle window from now on, with nothing left of an earlier probe. -/
def Renewed (now : Nat) (s s' : Session) : Prop :=
  ∀ d ∈ s'.watchdog, d.expiry = some (now + s.config.idle) ∧ d.isEscalated = false

/-- The ways that a session may be tended as it issues some operations. -/
inductive Tended (now : Nat) (s : Session) (ops : List Operation) (s' : Session) : Prop
  | gone (h : 2 < s'.phase.rank)
  | same (h : s'.watchdog = s.watchdog)
  | rearms (op : Operation) (hm : op ∈ ops) (hop : op.rearms = true)
      (h : s'.watchdog = s.watchdog.map (·.arm (now + s.config.idle)))
  | renews (h : s.Renewed now s')
  /-- The deadline is the old one, if there is any. -/
  | relaxes (h : ∀ d ∈ s'.watchdog, d.isEscalated = false ∧
      ∀ e ∈ d.expiry, ∃ d' ∈ s.watchdog, d'.expiry = some e)

/-- A step that tends a session and leaves its configuration as it was. -/
structure Step.Tends (now : Nat) (s : Session) (x : Step) : Prop where
  config : x.session.config = s.config
  tended : s.Tended now (operations x.notes) x.session

namespace Step.Tends

variable {now : Nat} {s s' : Session} {x : Step}

/-- What a step starts from may differ in all that the watchdog does not depend on. -/
theorem of_parts (h : x.Tends now s) (hc : s'.config = s.config) (hd : s'.watchdog = s.watchdog) :
    x.Tends now s' := by
  refine ⟨h.config.trans hc.symm, ?_⟩
  have moved : now + s.config.idle = now + s'.config.idle := by rw [hc]
  cases h.tended with
  | gone h => exact .gone h
  | same h => exact .same (h.trans hd.symm)
  | rearms op hm hop h => exact .rearms op hm hop (by rw [h, hd, moved])
  | renews h => exact .renews (by unfold Renewed; rw [← moved]; exact h)
  | relaxes h => exact .relaxes (by rw [hd]; exact h)

theorem same (hc : x.session.config = s.config) (hd : x.session.watchdog = s.watchdog) :
    x.Tends now s :=
  ⟨hc, .same hd⟩

theorem gone (hc : x.session.config = s.config) (hp : x.session.phase = .closed) : x.Tends now s :=
  ⟨hc, .gone (by rw [hp]; decide)⟩

/-- An operation is issued that moves the deadline. -/
theorem issue {op : Operation} (hop : op.rearms = true) (hc : s'.config = s.config)
    (hd : s'.watchdog = s.watchdog.map (·.arm (now + s.config.idle))) :
    (s'.issue op).Tends now s :=
  ⟨hc, .rearms op (by simp [operations, Step.notes, Note.operation?]) hop hd⟩

theorem renewed (hc : x.session.config = s.config) (hr : s.Renewed now x.session) : x.Tends now s :=
  ⟨hc, .renews hr⟩

end Step.Tends

theorem keepalive_renewed (now : Nat) {s : Session} (hc : s.phase ≠ .closed) :
    s.Renewed now (s.keepalive now) := by
  have open_ : s.isClosed = false := by
    cases hp : s.phase <;> simp_all [isClosed, Phase.isClosed]
  intro d hd
  simp only [keepalive_eq, open_, Bool.false_eq_true, if_false, Option.mem_def,
    Option.map_eq_some_iff] at hd
  obtain ⟨d', -, rfl⟩ := hd
  exact ⟨rfl, rfl⟩

theorem peerActive_renewed (now : Nat) (s : Session) : s.Renewed now (s.peerActive now) := by
  intro d hd
  simp only [peerActive, Option.mem_def, Option.map_eq_some_iff] at hd
  obtain ⟨d', -, rfl⟩ := hd
  split
  · exact ⟨rfl, rfl⟩
  · exact ⟨rfl, Bool.eq_false_iff.mpr ‹_›⟩

theorem keepalive_config (now : Nat) (s : Session) : (s.keepalive now).config = s.config := by
  rw [keepalive_eq]

theorem accept_tends (now : Nat) (policy : AcceptPolicy) (s : Session) :
    (s.accept now policy).Tends now s := by
  unfold accept
  split
  · rename_i phase hr hp
    obtain ⟨-, rfl⟩ := Phase.beginEstablish_ok hp
    exact .renewed (keepalive_config now _) (keepalive_renewed now (by simp))
  · exact .same rfl rfl

theorem handshake_tends (now : Nat) (target : String) (s : Session) :
    (s.handshake now target).Tends now s := by
  unfold handshake
  split
  · rename_i hr hp
    obtain ⟨-, rfl⟩ := Phase.beginEstablish_ok hp
    exact .renewed (keepalive_config now _) (keepalive_renewed now (by simp))
  · exact .same rfl rfl

theorem read_tends (now : Nat) (s : Session) : (s.read now).Tends now s := by
  unfold read
  split
  · exact .issue rfl rfl rfl
  · exact .same rfl rfl

theorem ping_tends (now : Nat) (payload : Bytes) (s : Session) :
    (s.ping now payload).Tends now s := by
  unfold ping
  split
  · exact .issue rfl rfl rfl
  · exact .same rfl rfl

theorem pong_tends (now : Nat) (payload : Bytes) (s : Session) :
    (s.pong now payload).Tends now s := by
  unfold pong
  split
  · exact .issue rfl rfl rfl
  · exact .same rfl rfl

theorem flush_tends (now : Nat) (nextRead : Bool) (s : Session) :
    (s.flush nextRead).Tends now s := by
  unfold flush
  split <;> exact .same rfl rfl

theorem push_tends (now : Nat) (data : Bytes) (s : Session) : (s.push data).Tends now s :=
  (flush_tends now true _).of_parts rfl rfl

theorem close_tends (now : Nat) (reason : CloseReason) (s : Session) :
    (s.close now reason).Tends now s := by
  unfold close
  split
  · rename_i hp
    obtain rfl := Phase.beginClose_ok hp
    exact ⟨rfl, .gone (show 2 < Phase.closing.rank by decide)⟩
  · exact .same rfl rfl

theorem forceClose_tends (now : Nat) (s : Session) : s.forceClose.Tends now s := by
  unfold forceClose
  split <;> exact .gone rfl rfl

theorem fail_tends (now : Nat) (op : String) (error : TransportError) (s : Session) :
    (s.fail op error).Tends now s := by
  unfold fail
  dsimp only
  split
  · exact .gone rfl rfl
  · exact .gone (s.forceClose_tends now).config (by unfold forceClose; split <;> rfl)

theorem advance_tends (now : Nat) (nextRead : Bool) (s : Session) :
    (s.advance now nextRead).Tends now s := by
  unfold advance
  split
  · exact .same rfl rfl
  · split
    · exact flush_tends now nextRead s
    · split
      · exact read_tends now s
      · exact .same rfl rfl

theorem launchTimer_tends (now : Nat) (s : Session) : (s.launchTimer .probe).stay.Tends now s := by
  refine ⟨rfl, .relaxes fun d hd => ?_⟩
  simp only [launchTimer, stay_session, Option.mem_def, Option.some.injEq] at hd
  subst hd
  refine ⟨rfl, fun e he => ?_⟩
  cases hw : s.watchdog with
  | none => simp [Session.dog, hw, Watchdog.launch, Watchdog.new] at he
  | some d => exact ⟨d, rfl, by simpa [Session.dog, hw, Watchdog.launch] using he⟩

/-- What a watchdog does that fires as of some instant. -/
inductive Fire (now instant : Nat) (s : Session) : Step → Prop
  | early : Fire now instant s s.stay
  /-- Its wait is over, if there was any, and was a body to run. -/
  | spent (d : Watchdog) (hd : s.watchdog = some d) :
    Fire now instant s (stay { s with watchdog := some d.cancel })
  | probes (expiry : Nat) (hd : s.watchdog = some ⟨some expiry, some .probe⟩)
      (due : expiry ≤ instant) :
    Fire now instant s
      (issue (awaitAnswer now { expiry := now + s.config.idle } { s with pending := s.pending + 1 })
        (.ping []))
  | drops (expiry : Nat) (wait : TimerAction) (hd : s.watchdog = some ⟨some expiry, some wait⟩)
      (due : expiry ≤ instant) (hw : s.phase.canSend = true → wait = .forceClose) :
    Fire now instant s (forceClose { s with watchdog := some { expiry } })

theorem fire_cases (now instant : Nat) (s : Session) :
    s.Fire now instant (s.fire now instant) := by
  cases hd : s.watchdog with
  | none =>
    have rests : s.fire now instant = s.stay := by simp only [fire, poll, hd]
    rw [rests]
    exact .early
  | some d =>
    obtain ⟨_ | expiry, wait⟩ := d
    · have same : { s with watchdog := some { wait } } = s := by rw [← hd]
      have rests : s.fire now instant = s.stay := by
        simp only [fire, poll, hd, Watchdog.poll, same]
      rw [rests]
      exact .early
    by_cases due : expiry ≤ instant
    · rcases wait with _ | (_ | body | _)
      · have spent : s.fire now instant = stay { s with watchdog := some { expiry } } := by
          simp [fire, poll, hd, Watchdog.poll, due, Watchdog.cancel]
        rw [spent]
        exact .spent _ hd
      · rcases fire_idle hd now due with ⟨hc, fires⟩ | ⟨hc, fires⟩ <;> rw [fires]
        · exact .probes expiry hd due
        · exact .drops expiry _ hd due (by simp [hc])
      · have spent : s.fire now instant = stay { s with watchdog := some { expiry } } := by
          simp [fire, poll, hd, Watchdog.poll, due, Watchdog.cancel]
        rw [spent]
        exact .spent _ hd
      · rw [fire_probing hd now due]
        exact .drops expiry _ hd due fun _ => rfl
    · rw [fire_early hd rfl now due]
      exact .early

theorem received_config (c : Completion) (s : Session) : (s.received c).config = s.config := by
  cases c <;> rfl

theorem received_watchdog (c : Completion) (s : Session) :
    (s.received c).watchdog = s.watchdog := by
  cases c <;> rfl

theorem flush_watchdog (nextRead : Bool) (s : Session) :
    (s.flush nextRead).session.watchdog = s.watchdog := by
  unfold flush
  split <;> rfl

/-- What a completion does that asks nobody. -/
theorem absorb_tends (now : Nat) {c : Completion} {s : Session} (ha : s.asks c = none) :
    (s.absorb now c).Tends now s := by
  have told {x : Step} (h : x.Tends now (s.received c)) : x.Tends now s :=
    h.of_parts (received_config c s).symm (received_watchdog c s).symm
  rcases c with (e | _) | (e | response) | (e | frame) | (e | n) | (e | _) | (e | _) | (e | _) |
    ⟨kind, payload⟩
  case accepted.error | handshaked.error | read.error | written.error | pinged.error |
      ponged.error | closed.error =>
    exact told (fail_tends now _ _ _)
  case accepted.ok =>
    unfold absorb
    dsimp only
    split
    · exact (advance_tends now true _).of_parts rfl rfl
    · exact .same rfl rfl
  case handshaked.ok =>
    unfold absorb
    dsimp only
    split
    · refine .renewed ((flush_tends now true _).config.trans (keepalive_config now _)) ?_
      unfold Renewed
      rw [flush_watchdog]
      exact keepalive_renewed now (by simp)
    · exact .same rfl rfl
  case read.ok | control => exact .same rfl rfl
  case written.ok => exact told (advance_tends now _ _)
  case pinged.ok | ponged.ok => exact told (read_tends now _)
  case closed.ok =>
    unfold absorb
    dsimp only
    split <;> exact .gone rfl rfl

/-- Of the completions that a handler is asked about, only a server's upgrade leaves the watchdog as
it is. -/
theorem asking_tended (now : Nat) {c : Completion} {hook : Bytes → Hook} {s : Session}
    (ha : s.asks c = some hook) :
    (s.asking now c).config = s.config ∧
      ((∃ r, c = .accepted r) ∧ (s.asking now c).watchdog = s.watchdog ∨
        s.Renewed now (s.asking now c)) := by
  unfold asks at ha
  split at ha
  · exact ⟨rfl, .inl ⟨⟨_, rfl⟩, rfl⟩⟩
  · rename_i response
    have renewed := keepalive_renewed now
      (s := { s.received (.handshaked (.ok response)) with phase := .established now }) (by simp)
    exact ⟨keepalive_config now _, .inr renewed⟩
  · exact ⟨rfl, .inr (peerActive_renewed now (s.received _))⟩
  · cases ha

theorem resume_tends (now : Nat) (c : Completion) (draft : Draft) (s : Session) :
    (s.resume now c draft).Tends now s := by
  unfold resume
  split
  · exact advance_tends now true s
  · exact (flush_tends now _ _).of_parts rfl rfl
  · refine (advance_tends now _ _).of_parts ?_ ?_ <;> split <;> rfl
  · exact .same rfl rfl

/-- The watchdog fires on a session and probes the peer. -/
structure Probed (now : Nat) (s : Session) (m : List Note) (s' : Session) : Prop where
  due : ∃ expiry at?, expiry ≤ Option.getD at? now ∧
    s.watchdog = some ⟨some expiry, some .probe⟩ ∧
    m = [.began now s (.fireTimer at?), .did (.issued (.ping []))]
  awaits : s'.watchdog = some ⟨some (now + s.config.probe), some .forceClose⟩

end Session

theorem Command.effect_tends (now : Nat) (s : Session) (c : Command) :
    (c.effect now s).Tends now s := by
  cases c with
  | push data => exact s.push_tends now data
  | read => exact s.read_tends now
  | ping payload => exact s.ping_tends now payload
  | close reason => exact s.close_tends now reason
  | run => exact .same rfl rfl

theorem Action.effect_tends (now : Nat) (s : Session) (a : Action) (hc : ∀ c, a ≠ .complete c)
    (hf : ∀ at?, a ≠ .fireTimer at?) (hw : ∀ window, a ≠ .armTimer window)
    (hb : ∀ body, a ≠ .launchTimerWith body) : (a.effect now s).Tends now s := by
  cases a with
  | accept policy => exact s.accept_tends now policy
  | handshake target => exact s.handshake_tends now target
  | read => exact s.read_tends now
  | write => exact s.flush_tends now true
  | push data => exact s.push_tends now data
  | ping payload => exact s.ping_tends now payload
  | pong payload => exact s.pong_tends now payload
  | close reason => exact s.close_tends now reason
  | forceClose => exact s.forceClose_tends now
  | setFrameMode mode => cases mode <;> exact .same rfl rfl
  | launchTimer => exact s.launchTimer_tends now
  | launchTimerWith body => exact absurd rfl (hb body)
  | armTimer window => exact absurd rfl (hw window)
  | keepalive =>
    by_cases hp : s.phase = .closed
    · refine .same ?_ ?_ <;>
        simp [effect, Session.keepalive, Session.isClosed, hp, Phase.isClosed]
    · exact .renewed (s.keepalive_config now) (s.keepalive_renewed now hp)
  | fireTimer at? => exact absurd rfl (hf at?)
  | apply c => exact c.effect_tends now s
  | complete c => exact absurd rfl (hc c)
  | transportLost => exact .gone rfl rfl
  | _ => exact .same rfl rfl

theorem fire_tends (now : Nat) (at? : Option Nat) (s : Session) :
    (s.fire now (at?.getD now)).session.config = s.config ∧
      (s.Tended now (operations (s.fire now (at?.getD now)).notes)
          (s.fire now (at?.getD now)).session ∨
        s.Probed now (.began now s (.fireTimer at?) :: (s.fire now (at?.getD now)).notes)
          (s.fire now (at?.getD now)).session) := by
  have fires := s.fire_cases now (at?.getD now)
  generalize s.fire now (at?.getD now) = x at fires ⊢
  cases fires with
  | early => exact ⟨rfl, .inl (.same rfl)⟩
  | spent d hd =>
    refine ⟨rfl, .inl (.relaxes fun d' hd' => ?_)⟩
    obtain rfl : d.cancel = d' := by simpa using hd'
    exact ⟨rfl, fun e he => ⟨d, hd, he⟩⟩
  | probes expiry hd due => exact ⟨rfl, .inr ⟨⟨expiry, at?, due, hd, rfl⟩, rfl⟩⟩
  | drops expiry wait hd due hw =>
    have dropped := Session.forceClose_tends now { s with watchdog := some { expiry } }
    exact ⟨dropped.config, .inl (.gone (by
      unfold Session.forceClose
      split <;> exact (show 2 < Phase.closed.rank by decide)))⟩

/-- Every move tends the session or probes its peer. -/
theorem Move.tends {now : Nat} {x y : Scene} {m : List Note} (h : Move now x m y)
    (hu : ∀ n ∈ m, n.setsTimer = false) :
    y.session.config = x.session.config ∧
      (x.session.Tended now (operations m) y.session ∨ x.session.Probed now m y.session) := by
  have step {s : Session} {r : Session.Step} (h : r.Tends now s) :
      r.session.config = s.config ∧ (s.Tended now (operations r.notes) r.session ∨
        s.Probed now m r.session) := ⟨h.config, .inl h.tended⟩
  cases h with
  | act _ a s k hc =>
    have first := hu _ List.mem_cons_self
    cases a with
    | fireTimer at? => exact fire_tends now at? s
    | armTimer | launchTimerWith => cases first
    | complete c => exact absurd rfl (hc c)
    | _ => exact step (Action.effect_tends now s _ hc nofun nofun nofun)
  | absorb _ c s k ha => exact step (s.absorb_tends now ha)
  | enter hook s k => exact ⟨rfl, .inl (.same rfl)⟩
  | ask _ c hook s k ha =>
    obtain ⟨config, ⟨-, kept⟩ | renewed⟩ := s.asking_tended now ha
    · exact ⟨config, .inl (.same kept)⟩
    · exact ⟨config, .inl (.renews renewed)⟩
  | answer _ loan draft s k =>
    exact step ((s.restore draft.output).resume_tends now loan.completion draft |>.of_parts rfl rfl)
  | flush s k => exact step (s.flush_tends now true)
  | reach held s k => exact ⟨rfl, .inl (.same rfl)⟩

end Parley

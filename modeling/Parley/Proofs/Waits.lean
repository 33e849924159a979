import Parley.Proofs.Dispatch
import Parley.Proofs.Tending

namespace Parley

/-- The watchdog waits for nothing but its own two stages. -/
def Watchdog.IsPlain (d : Watchdog) : Prop := ∀ body, d.wait ≠ some (.custom body)

/-- The body that the watchdog waits for, if it does for one, is such. -/
def Watchdog.Waits (P : List Action → Prop) (d : Watchdog) : Prop :=
  ∀ body, d.wait = some (.custom body) → P body

namespace Session

def IsPlain (s : Session) : Prop := ∀ d ∈ s.watchdog, d.IsPlain

def Waits (P : List Action → Prop) (s : Session) : Prop := ∀ d ∈ s.watchdog, d.Waits P

variable {P : List Action → Prop}

theorem Waits.map {s s' : Session} (h : s.Waits P) {f : Watchdog → Watchdog}
    (he : s'.watchdog = s.watchdog.map f) (hf : ∀ d : Watchdog, d.Waits P → (f d).Waits P) :
    s'.Waits P := by
  intro d hd
  rw [he, Option.mem_def, Option.map_eq_some_iff] at hd
  obtain ⟨d', hd', rfl⟩ := hd
  exact hf d' (h d' hd')

theorem awaitAnswer_waits (now : Nat) (d : Watchdog) (s : Session) :
    (s.awaitAnswer now d).Waits P := by
  rintro _ ⟨⟩ body ⟨⟩

theorem keepalive_waits (now : Nat) {s : Session} (h : s.Waits P) : (s.keepalive now).Waits P := by
  unfold keepalive
  split
  · exact h
  · exact h.map rfl fun _ _ _ => nofun

theorem peerActive_waits (now : Nat) {s : Session} (h : s.Waits P) :
    (s.peerActive now).Waits P := by
  refine h.map rfl fun d plain => ?_
  dsimp only
  split
  · exact fun _ => nofun
  · exact plain

/-- What a session runs is what it waited for. -/
theorem poll_waits {instant : Nat} {s : Session} (h : s.Waits P) {body : List Action}
    (taken : (s.poll instant).1 = some (.custom body)) : P body := by
  unfold poll at taken
  split at taken
  · cases taken
  · rename_i d hd
    refine h d hd body ?_
    unfold Watchdog.poll at taken
    split at taken
    · split at taken
      · exact taken
      · cases taken
    · cases taken

theorem polled_waits (instant : Nat) {s : Session} (h : s.Waits P) :
    (s.poll instant).2.Waits P := by
  unfold poll
  split
  · exact h
  · rename_i d hd
    rintro _ ⟨⟩ body waits
    refine h d hd body ?_
    unfold Watchdog.poll at waits
    split at waits
    · split at waits
      · cases waits
      · exact waits
    · exact waits

theorem accept_waits (now : Nat) (policy : AcceptPolicy) {s : Session} (h : s.Waits P) :
    (s.accept now policy).session.Waits P := by
  unfold accept
  split
  · exact keepalive_waits now (s := { s with phase := _ }) h
  · exact h

theorem handshake_waits (now : Nat) (target : String) {s : Session} (h : s.Waits P) :
    (s.handshake now target).session.Waits P := by
  unfold handshake
  split
  · exact keepalive_waits now (s := { s with phase := _ }) h
  · exact h

theorem read_waits (now : Nat) {s : Session} (h : s.Waits P) : (s.read now).session.Waits P := by
  unfold read
  split
  · exact h.map rfl fun _ plain => plain
  · exact h

theorem ping_waits (now : Nat) (payload : Bytes) {s : Session} (h : s.Waits P) :
    (s.ping now payload).session.Waits P := by
  unfold ping
  split
  · exact h.map rfl fun _ plain => plain
  · exact h

theorem pong_waits (now : Nat) (payload : Bytes) {s : Session} (h : s.Waits P) :
    (s.pong now payload).session.Waits P := by
  unfold pong
  split
  · exact h.map rfl fun _ plain => plain
  · exact h

theorem close_waits (now : Nat) (reason : CloseReason) {s : Session} (h : s.Waits P) :
    (s.close now reason).session.Waits P := by
  unfold close
  split
  · exact h.map rfl fun _ plain => plain
  · exact h

theorem flush_waits (nextRead : Bool) {s : Session} (h : s.Waits P) :
    (s.flush nextRead).session.Waits P := by
  unfold Waits
  rw [flush_watchdog]
  exact h

theorem advance_waits (now : Nat) (nextRead : Bool) {s : Session} (h : s.Waits P) :
    (s.advance now nextRead).session.Waits P := by
  unfold advance
  split
  · exact h
  · split
    · exact flush_waits nextRead h
    · split
      · exact read_waits now h
      · exact h

theorem terminate_waits {s : Session} (h : s.Waits P) : s.terminate.Waits P :=
  h.map rfl fun _ _ _ => nofun

theorem forceClose_waits {s : Session} (h : s.Waits P) : s.forceClose.session.Waits P := by
  unfold forceClose
  split <;> exact terminate_waits h

theorem fail_waits (op : String) (error : TransportError) {s : Session} (h : s.Waits P) :
    (s.fail op error).session.Waits P := by
  unfold fail
  dsimp only
  split
  · exact terminate_waits h
  · exact forceClose_waits h

theorem fire_waits (now instant : Nat) {s : Session} (h : s.Waits P) :
    (s.fire now instant).session.Waits P := by
  have fires := s.fire_cases now instant
  generalize s.fire now instant = x at fires ⊢
  cases fires with
  | early => exact h
  | spent d hd => rintro _ ⟨⟩ body ⟨⟩
  | probes expiry hd due => exact awaitAnswer_waits now _ _
  | drops expiry wait hd due hw =>
    refine forceClose_waits ?_
    rintro _ ⟨⟩ body ⟨⟩

theorem absorb_waits (now : Nat) (c : Completion) {s : Session} (h : s.Waits P) :
    (s.absorb now c).session.Waits P := by
  have received : (s.received c).Waits P := by cases c <;> exact h
  rcases c with (e | _) | (e | response) | (e | frame) | (e | n) | (e | _) | (e | _) | (e | _) |
    ⟨kind, payload⟩
  case accepted.error | handshaked.error | read.error | written.error | pinged.error |
      ponged.error | closed.error =>
    exact fail_waits _ e received
  case accepted.ok =>
    unfold absorb
    dsimp only
    split
    · exact advance_waits now true received
    · exact received
  case handshaked.ok =>
    unfold absorb
    dsimp only
    split
    · exact flush_waits true (keepalive_waits now received)
    · exact received
  case read.ok | control => exact received
  case written.ok => exact advance_waits now _ received
  case pinged.ok | ponged.ok => exact read_waits now received
  case closed.ok =>
    unfold absorb
    dsimp only
    split
    · exact terminate_waits received
    · exact awaitAnswer_waits now _ _

theorem asking_waits (now : Nat) (c : Completion) {s : Session} (h : s.Waits P) :
    (s.asking now c).Waits P := by
  have received : (s.received c).Waits P := by cases c <;> exact h
  unfold asking
  split
  · exact received
  · exact keepalive_waits now (s := { s.received _ with phase := _ }) received
  · exact peerActive_waits now received
  · exact received

theorem resume_waits (now : Nat) (c : Completion) (draft : Draft) {s : Session} (h : s.Waits P) :
    (s.resume now c draft).session.Waits P := by
  unfold resume
  split
  · exact advance_waits now true h
  · exact flush_waits _ h
  · refine advance_waits now _ ?_
    split <;> exact h
  · exact h

theorem launchTimer_waits {s : Session} {action : TimerAction}
    (ha : ∀ body, action = .custom body → P body) : (s.launchTimer action).Waits P := by
  rintro _ ⟨⟩ body ⟨⟩
  exact ha body rfl

theorem armTimer_waits (now window : Nat) {s : Session} (h : s.Waits P) :
    (s.armTimer now window).Waits P := by
  rintro _ ⟨⟩
  cases hd : s.watchdog with
  | none =>
    simp only [dog, hd, Option.getD_none]
    rintro body ⟨⟩
  | some d =>
    simp only [dog, hd, Option.getD_some]
    exact h d hd

end Session

/-- Only an action that gives a session a body to wait for makes it wait for another. -/
theorem Action.effect_waits (now : Nat) {s : Session} {a : Action} {P : List Action → Prop}
    (ha : ∀ body, a = .launchTimerWith body → P body) (h : s.Waits P) :
    (a.effect now s).session.Waits P := by
  cases a with
  | accept policy => exact Session.accept_waits now policy h
  | handshake target => exact Session.handshake_waits now target h
  | read => exact Session.read_waits now h
  | write => exact Session.flush_waits true h
  | push data => exact Session.flush_waits true h
  | ping payload => exact Session.ping_waits now payload h
  | pong payload => exact Session.pong_waits now payload h
  | close reason => exact Session.close_waits now reason h
  | forceClose => exact Session.forceClose_waits h
  | setFrameMode mode => cases mode <;> exact h
  | launchTimer => exact Session.launchTimer_waits fun _ => nofun
  | launchTimerWith body =>
    refine Session.launchTimer_waits ?_
    rintro _ ⟨⟩
    exact ha body rfl
  | armTimer window => exact Session.armTimer_waits now window h
  | keepalive => exact Session.keepalive_waits now h
  | fireTimer at? => exact Session.fire_waits now _ h
  | apply c =>
    cases c with
    | push data => exact Session.flush_waits true h
    | read => exact Session.read_waits now h
    | ping payload => exact Session.ping_waits now payload h
    | close reason => exact Session.close_waits now reason h
    | run => exact h
  | complete c => exact Session.absorb_waits now c h
  | transportLost => exact Session.terminate_waits h
  | _ => exact h

end Parley

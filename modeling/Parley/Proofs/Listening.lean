import Parley.Proofs.Accounted
import Parley.Proofs.LifeCycle

namespace Parley

namespace Session

/-- A session that can expect frames has asked for one, writes first, or is about to. -/
def Hears (s : Session) : Prop :=
  s.phase.canSend = true → s.inHook = true ∨ s.readable = false ∨ s.writing = true

/-- A step that leaves no session deaf that was not. -/
structure Step.Attends (s : Session) (x : Step) : Prop where
  inHook : x.session.inHook = s.inHook
  follows : s.writeNextRead = true → x.session.writeNextRead = true
  hears : s.Hears → x.session.Hears

/-- The part of a session that tells whether it hears. -/
def ears (s : Session) : Bool × Bool × Bool × Bool × Bool :=
  (s.phase.canSend, s.inHook, s.readable, s.writing, s.writeNextRead)

theorem Hears.of_ears {s s' : Session} (h : s.Hears) (he : s'.ears = s.ears) : s'.Hears := by
  simp only [ears, Prod.mk.injEq] at he
  obtain ⟨hc, hi, hr, hw, -⟩ := he
  unfold Hears
  rw [hc, hi, hr, hw]
  exact h

namespace Step.Attends

theorem of_ears {s s' : Session} {x : Step} (h : x.Attends s) (he : s.ears = s'.ears) :
    x.Attends s' := by
  have heard : s'.Hears → s.Hears := fun hs => hs.of_ears he
  simp only [ears, Prod.mk.injEq] at he
  obtain ⟨-, hi, -, -, hf⟩ := he
  exact ⟨h.inHook.trans hi, fun hw => h.follows (hf.trans hw), fun hs => h.hears (heard hs)⟩

/-- What is left behind may differ in all but its ears. -/
theorem leave {s s' : Session} {x : Step} (h : x.Attends s) (he : s'.ears = x.session.ears) :
    Step.Attends s { x with session := s' } := by
  have heard : x.session.Hears → s'.Hears := fun hs => hs.of_ears he
  simp only [ears, Prod.mk.injEq] at he
  obtain ⟨-, hi, -, -, hf⟩ := he
  exact ⟨hi.trans h.inHook, fun hw => hf.trans (h.follows hw), fun hs => heard (h.hears hs)⟩

theorem quiet {s : Session} {x : Step} (h : x.session.ears = s.ears) : x.Attends s := by
  have heard : s.Hears → x.session.Hears := fun hs => hs.of_ears h
  simp only [ears, Prod.mk.injEq] at h
  obtain ⟨-, hi, -, -, hf⟩ := h
  exact ⟨hi, fun hw => hf.trans hw, heard⟩

/-- Where no more frames are expected, there is nothing to hear. -/
theorem still {s : Session} {x : Step} (hc : x.session.phase.canSend = false)
    (hi : x.session.inHook = s.inHook)
    (hf : s.writeNextRead = true → x.session.writeNextRead = true) : x.Attends s :=
  ⟨hi, hf, fun _ hs => by simp [hc] at hs⟩

end Step.Attends

theorem accept_attends (now : Nat) (policy : AcceptPolicy) (s : Session) :
    (s.accept now policy).Attends s := by
  unfold accept
  split
  · rename_i phase hr hp
    obtain ⟨-, rfl⟩ := Phase.beginEstablish_ok hp
    exact .still (by simp [keepalive_eq, Phase.canSend]) (by simp [keepalive_eq])
      (by simp [keepalive_eq])
  · exact .quiet rfl

theorem handshake_attends (now : Nat) (target : String) (s : Session) :
    (s.handshake now target).Attends s := by
  unfold handshake
  split
  · rename_i hr hp
    obtain ⟨-, rfl⟩ := Phase.beginEstablish_ok hp
    exact .still (by simp [keepalive_eq, Phase.canSend]) (by simp [keepalive_eq])
      (by simp [keepalive_eq])
  · exact .quiet rfl

/-- After a read nobody is deaf, whoever was before. -/
theorem read_hears (now : Nat) (s : Session) : (s.read now).session.Hears := by
  intro hc
  unfold read at hc ⊢
  split at hc <;> simp_all

theorem read_attends (now : Nat) (s : Session) : (s.read now).Attends s := by
  refine ⟨?_, ?_, fun _ => s.read_hears now⟩
  all_goals
    unfold read
    split <;> simp [armIdle]

/-- Where something is queued, going to write leaves nobody deaf. -/
theorem flush_hears (nextRead : Bool) {s : Session} (ho : s.output ≠ []) :
    (s.flush nextRead).session.Hears := by
  unfold flush
  split
  · exact fun _ => .inr (.inr rfl)
  · rename_i h
    intro (hc : s.phase.canSend = true)
    cases hi : s.inHook with
    | true => exact .inl hi
    | false =>
      cases hw : s.writing with
      | true => exact .inr (.inr hw)
      | false => exact absurd (by simp [hi, hw, hc, ho]) h

theorem flush_attends (s : Session) : (s.flush true).Attends s := by
  unfold flush
  split
  · exact ⟨rfl, fun _ => rfl, fun _ _ => .inr (.inr rfl)⟩
  · exact .quiet rfl

theorem push_attends (data : Bytes) (s : Session) : (s.push data).Attends s :=
  (flush_attends _).of_ears rfl

theorem ping_attends (now : Nat) (payload : Bytes) (s : Session) :
    (s.ping now payload).Attends s := by
  unfold ping
  split <;> exact .quiet rfl

theorem pong_attends (now : Nat) (payload : Bytes) (s : Session) :
    (s.pong now payload).Attends s := by
  unfold pong
  split <;> exact .quiet rfl

theorem close_attends (now : Nat) (reason : CloseReason) (s : Session) :
    (s.close now reason).Attends s := by
  unfold close
  split
  · rename_i h hp
    obtain rfl := Phase.beginClose_ok hp
    exact .still (rfl) rfl fun h => h
  · exact .quiet rfl

theorem forceClose_attends (s : Session) : s.forceClose.Attends s := by
  unfold forceClose
  split <;> exact .still rfl rfl fun h => h

/-- A failure ends a session that can expect frames. -/
theorem fail_attends (op : String) (error : TransportError) {s s' : Session}
    (hi : s'.inHook = s.inHook) (hf : s.writeNextRead = true → s'.writeNextRead = true) :
    (s'.fail op error).Attends s := by
  unfold fail forceClose
  repeat' split
  all_goals exact .still rfl hi hf

/-- Going on leaves nobody deaf, whoever was before: what is queued goes out, or else a read
does. -/
theorem advance_hears (now : Nat) (s : Session) : (s.advance now true).session.Hears := by
  unfold advance
  split
  · rename_i hc
    intro (hs : s.phase.canSend = true)
    cases hp : s.phase <;> simp_all [isClosed, Phase.isClosed, Phase.canSend]
  · split
    · rename_i ho
      exact flush_hears true (by simpa using ho)
    · exact s.read_hears now

theorem advance_attends (now : Nat) (s : Session) : (s.advance now true).Attends s := by
  unfold advance
  split
  · exact .quiet rfl
  · split
    · exact s.flush_attends
    · exact s.read_attends now

theorem fire_attends (now instant : Nat) (s : Session) : (s.fire now instant).Attends s := by
  have fires := s.fires now instant
  generalize s.fire now instant = x at fires ⊢
  cases fires with
  | rests s' h => exact .quiet (congrArg ears h :)
  | drops s' h => exact s'.forceClose_attends.of_ears (congrArg ears h :)
  | pings s' s'' h h' =>
    exact .of_ears (.leave (s'.ping_attends now []) (congrArg ears h' :)) (congrArg ears h :)

end Session

/-- What a server session does by itself with an answer leaves it listening. -/
theorem Session.absorb_attends (now : Nat) {c : Completion} {s : Session} (hs : s.role = .server)
    (ha : s.asks c = none) (hn : c.kind? ≠ some .handshake) (hf : s.writeNextRead = true) :
    (s.absorb now c).Attends s := by
  rcases c with (e | _) | (e | response) | (e | frame) | (e | n) | (e | _) | (e | _) | (e | _) |
    ⟨kind, payload⟩
  case accepted.error | read.error | pinged.error | ponged.error | closed.error =>
    exact fail_attends _ e rfl fun h => h
  case written.error => exact fail_attends _ e rfl fun _ => rfl
  case handshaked.error | handshaked.ok => exact absurd rfl hn
  case accepted.ok =>
    cases hp : s.phase <;> simp only [asks, hs, hp, reduceCtorEq] at ha
    all_goals
      simp only [absorb, hp]
      exact .quiet rfl
  case read.ok =>
    have hc : s.isClosed = true := by simpa [asks] using ha
    refine .still ?_ rfl fun h => h
    cases hp : s.phase <;> simp_all [isClosed, Phase.isClosed, Phase.canSend, absorb, received]
  case written.ok =>
    have := advance_attends now (s.received (.written (.ok n)))
    simp only [absorb, hf]
    exact ⟨this.inHook, fun _ => this.follows rfl, fun _ => advance_hears now _⟩
  case pinged.ok | ponged.ok => exact (read_attends now _).of_ears rfl
  case closed.ok =>
    unfold absorb
    dsimp only
    split <;> exact .still rfl rfl fun h => h
  case control => exact .quiet rfl

/-- A server asks its handler about the upgrade and about messages only. -/
theorem Session.asks_server {c : Completion} {s : Session} {hook : Bytes → Hook}
    (hs : s.role = .server) (ha : s.asks c = some hook) :
    c = .accepted (.ok ()) ∨ ∃ frame, c = .read (.ok frame) := by
  unfold asks at ha
  split at ha
  · exact .inl rfl
  · simp [hs] at ha
  · exact .inr ⟨_, rfl⟩
  · cases ha

/-- Once a hook has answered, a server goes on. -/
theorem Session.resume_server (now : Nat) {c : Completion} (draft : Draft) {s : Session}
    (hs : s.role = .server) (hc : c = .accepted (.ok ()) ∨ ∃ frame, c = .read (.ok frame))
    (hf : s.writeNextRead = true) (hi : s.inHook = false) :
    (s.resume now c draft).session.writeNextRead = true ∧
      (s.resume now c draft).session.inHook = false ∧ (s.resume now c draft).session.Hears := by
  have goesOn (s' : Session) (hf : s'.writeNextRead = true) (hi : s'.inHook = false) :
      (s'.advance now true).session.writeNextRead = true ∧
        (s'.advance now true).session.inHook = false ∧ (s'.advance now true).session.Hears :=
    have attends := s'.advance_attends now
    ⟨attends.follows hf, attends.inHook.trans hi, s'.advance_hears now⟩
  rcases hc with rfl | ⟨frame, rfl⟩
  · exact goesOn s hf hi
  · simp only [resume, hs]
    refine goesOn _ ?_ ?_ <;> split <;> assumption

theorem Command.effect_attends (now : Nat) (s : Session) (c : Command) :
    (c.effect now s).Attends s := by
  cases c with
  | push data => exact s.push_attends data
  | read => exact s.read_attends now
  | ping payload => exact s.ping_attends now payload
  | close reason => exact s.close_attends now reason
  | run => exact .quiet rfl

theorem Action.effect_attends (now : Nat) (s : Session) (a : Action) (h : ∀ c, a ≠ .complete c) :
    (a.effect now s).Attends s := by
  cases a with
  | accept policy => exact s.accept_attends now policy
  | handshake target => exact s.handshake_attends now target
  | read => exact s.read_attends now
  | write => exact s.flush_attends
  | push data => exact s.push_attends data
  | ping payload => exact s.ping_attends now payload
  | pong payload => exact s.pong_attends now payload
  | close reason => exact s.close_attends now reason
  | forceClose => exact s.forceClose_attends
  | setFrameMode mode => cases mode <;> exact .quiet rfl
  | keepalive => exact .quiet (by simp [Action.effect, Session.ears, Session.keepalive_eq])
  | fireTimer instant? => exact s.fire_attends now _
  | apply c => exact c.effect_attends now s
  | complete c => exact absurd rfl (h c)
  | transportLost => exact .still rfl rfl fun h => h
  | _ => exact .quiet rfl

/-- A server session that is not deaf, with what its hooks still owe it. -/
structure Listens (x : Scene) : Prop where
  server : x.session.role = .server
  follows : x.session.writeNextRead = true
  hears : x.session.Hears
  home : x.loans = [] → x.session.inHook = false
  owed : ∀ loan ∈ x.loans,
    loan.completion = .accepted (.ok ()) ∨ ∃ frame, loan.completion = .read (.ok frame)

theorem Listens.step {s : Session} {k : List Loan} {x : Session.Step} (h : Listens ⟨s, k⟩)
    (hx : x.Attends s) (hs : x.session.role = .server) : Listens ⟨x.session, k⟩ :=
  ⟨hs, hx.follows h.follows, hx.hears h.hears, fun hk => hx.inHook.trans (h.home hk), h.owed⟩

/-- A move of a server session that hears of no handshake. -/
theorem Move.listens {now : Nat} {x y : Scene} {m : List Note} (h : Move now x m y) (hx : Listens x)
    (hn : ∀ n ∈ m, n.answer? ≠ some .handshake) : Listens y := by
  have server := h.forward.1.trans hx.server
  cases h with
  | act now a s k hc => exact hx.step (a.effect_attends now s hc) server
  | absorb now c s k ha =>
    exact hx.step
      (Session.absorb_attends now hx.server ha (hn _ List.mem_cons_self) hx.follows) server
  | enter hook s k => exact hx
  | ask now c hook s k ha =>
    -- The session may stay deaf while the hook runs: what it was lent on owes it a read.
    have asked := Session.asks_server hx.server ha
    refine ⟨server, ?_, fun _ => .inl rfl, fun hk => (nomatch hk), ?_⟩
    · rcases asked with rfl | ⟨frame, rfl⟩ <;> exact hx.follows
    · exact List.forall_mem_cons.mpr ⟨asked, hx.owed⟩
  | answer now loan draft s k =>
    obtain ⟨owed, rest⟩ := List.forall_mem_cons.mp hx.owed
    obtain ⟨follows, home, hears⟩ :=
      (s.restore draft.output).resume_server now draft hx.server owed hx.follows rfl
    exact ⟨server, follows, hears, fun _ => home, rest⟩
  | flush s k => exact hx.step s.flush_attends server
  | reach held s k => exact ⟨server, hx.follows, hx.hears, hx.home, hx.owed⟩

/-- A server issues no handshake. -/
theorem Living.no_handshake {l : Life} {r : List Note} (h : Living l r) (hs : l.role = .server) :
    issued .handshake r = 0 := by
  obtain ⟨opening, frames, closing, stages, -⟩ := h.stages
  refine issued_eq_zero fun op hm hk => ?_
  obtain ⟨request, rfl⟩ : ∃ request, op = .handshake request := by
    cases op <;> cases hk
    exact ⟨_, rfl⟩
  rw [stages.all] at hm
  simp only [List.mem_append] at hm
  rcases hm with ((hm | hm) | hm) | hm
  · have := stages.opens _ hm
    rw [hs] at this
    cases this
  · cases stages.framed _ hm
  · obtain ⟨reason, he⟩ := stages.closes _ hm
    cases he
  · rcases stages.drops with hd | hd <;> simp [hd] at hm

theorem Path.listens {x y : Scene} {r : List Note} (h : Path x r y)
    (hl : Living x.session.life []) (hx : Listens x) (hf : Fair r) : Listens y := by
  have kept := h.keeps (P := fun x r => Fair r → Living x.session.life r ∧ Listens x)
    (fun x r m y ih hm hf => ?_) (fun _ => ⟨hl, hx⟩)
  · exact (kept hf).2
  · obtain ⟨living, listens⟩ := ih hf.left
    -- A server issues no handshake, so none of the answers that are due is to one.
    have living' := hm.living living
    refine ⟨living', hm.listens listens fun n hn ha => ?_⟩
    obtain ⟨p, q, rfl⟩ := List.append_of_mem hn
    have due := Fair.due (r := r ++ p) (by simpa using hf) .handshake ha
    have none_issued := living'.no_handshake (hm.forward.1.trans listens.server)
    simp only [outstanding, issued_append] at due none_issued
    omega

/-- An established server session waits for a read or a write, whatever happened to it. -/
theorem Handler.server_listens {σ : Type} (h : Handler σ) (depth : Nat) (id : SessionId)
    (config : SessionConfig) (shared : σ) (ms : List (Moment σ))
    (hf : Fair (h.course depth (.server id config) shared ms).record) {since : Nat}
    (hp : (h.course depth (.server id config) shared ms).session.phase = .established since) :
    0 < outstanding .read (h.course depth (.server id config) shared ms).record ∨
      0 < outstanding .write (h.course depth (.server id config) shared ms).record := by
  have path := h.course_path depth (.server id config) shared ms
  have tallied := path.tallied (.fresh (.server id config)) hf
  have listens := path.listens (.fresh (.server id config))
    ⟨rfl, rfl, fun hc => (nomatch hc), fun _ => rfl, by simp⟩ hf
  have hr := tallied.reads
  have hw := tallied.writes
  unfold outstanding
  rcases listens.hears (by rw [hp]; rfl) with hi | hi | hi
  · rw [listens.home rfl] at hi
    cases hi
  · rw [hi] at hr
    exact .inl (by simp at hr; omega)
  · rw [hi] at hw
    exact .inr (by simp at hw; omega)

theorem echoing_listens :
    Fair (Handler.echo.course 2 (.server 0 {}) () echoing).record ∧
      (Handler.echo.course 2 (.server 0 {}) () echoing).session.phase = .established 0 ∧
      (0 < outstanding .read (Handler.echo.course 2 (.server 0 {}) () echoing).record ∨
        0 < outstanding .write (Handler.echo.course 2 (.server 0 {}) () echoing).record) := by
  have fair : Fair (Handler.echo.course 2 (.server 0 {}) () echoing).record := by decide +kernel
  have established :
      (Handler.echo.course 2 (.server 0 {}) () echoing).session.phase = .established 0 := by
    decide +kernel
  exact ⟨fair, established, Handler.echo.server_listens 2 0 {} () echoing fair established⟩

end Parley

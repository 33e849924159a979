import Parley.Proofs.Outgoing

namespace Parley

def Event.frame? : Event → Option Frame
  | .issued (.write kind data) => some ⟨kind, data⟩
  | _ => none

/-- The data frames that went out, in order. -/
def dispatched (events : List Event) : List Frame := events.filterMap (·.frame?)

theorem dispatched_append (events events' : List Event) :
    dispatched (events ++ events') = dispatched events ++ dispatched events' :=
  List.filterMap_append

namespace Session

/-- What becomes of a queue that `data` is put behind, with the frames that go out. -/
inductive Dispatches (s : Session) (data : Bytes) : List Frame → Session → Prop
  | queues {s' : Session} (h : s'.output = s.output ++ data) : Dispatches s data [] s'
  | sends {s' : Session} (filled : s.output ++ data ≠ []) (alive : s'.phase.rank ≤ 2)
      (h : s'.output = []) : Dispatches s data [⟨s'.outgoing, s.output ++ data⟩] s'
  | ends {s' : Session} (h : 2 < s'.phase.rank) : Dispatches s data [] s'

/-- The part of a session that decides what it sends. -/
def outbox (s : Session) : Bytes × Bool × Bool × Bool × FrameKind × FrameMode :=
  (s.output, s.inHook, s.writing, s.phase.canSend, s.outgoing, s.frameMode)

/-- A step that is given `data`, neither confirms a write nor changes what frames are like. -/
structure Step.Dispatches (s : Session) (data : Bytes) (x : Step) : Prop where
  goes : s.Dispatches data (dispatched x.events) x.session
  outgoing : x.session.outgoing = s.outgoing
  frameMode : x.session.frameMode = s.frameMode
  inHook : x.session.inHook = s.inHook
  idle : dispatched x.events = [] → x.session.writing = true → s.writing = true
  awake : s.Awake → x.session.Awake

theorem Awake.of_still {s : Session} (h : s.phase.canSend = false) : s.Awake := by
  intro can
  rw [h] at can
  cases can

namespace Step.Dispatches

variable {s s' : Session} {data data' : Bytes} {x : Step}

/-- A step may start from a session that is given the rest of the queue only now, if it differs in
nothing else that matters to its outbox, or is woken anyway. -/
theorem goOn (h : x.Dispatches s data) (ho : s.output ++ data = s'.output ++ data')
    (hi : s'.inHook = s.inHook) (hw : s.writing = true → s'.writing = true)
    (hk : s'.outgoing = s.outgoing) (hm : s'.frameMode = s.frameMode)
    (ha : s'.Awake → x.session.Awake) : x.Dispatches s' data' := by
  obtain ⟨goes, outgoing, frameMode, inHook, idle, -⟩ := h
  refine ⟨?_, outgoing.trans hk.symm, frameMode.trans hm.symm, inHook.trans hi.symm,
    fun none writing => hw (idle none writing), ha⟩
  generalize dispatched x.events = sent at goes
  cases goes with
  | queues h => exact .queues (h.trans ho)
  | sends filled alive h =>
    rw [ho] at filled ⊢
    exact .sends filled alive h
  | ends h => exact .ends h

theorem of_outbox (h : x.Dispatches s data) (he : s'.outbox = s.outbox) : x.Dispatches s' data := by
  simp only [outbox, Prod.mk.injEq] at he
  obtain ⟨ho, hi, hw, hc, hk, hm⟩ := he
  refine h.goOn (by rw [ho]) hi (fun writing => hw.trans writing) hk hm fun awake => h.awake ?_
  exact awake.of_tray (by simp [tray, ho, hi, hw, hc])

/-- What is left behind may differ in all that is not in its outbox, if it is as far. -/
theorem leave (h : x.Dispatches s data) (he : s'.outbox = x.session.outbox)
    (hp : s'.phase = x.session.phase) : Step.Dispatches s data { x with session := s' } := by
  simp only [outbox, Prod.mk.injEq] at he
  obtain ⟨ho, hi, hw, hc, hk, hm⟩ := he
  obtain ⟨goes, outgoing, frameMode, inHook, idle, awake⟩ := h
  refine ⟨?_, hk.trans outgoing, hm.trans frameMode, hi.trans inHook,
    fun none writing => idle none (hw.symm.trans writing),
    fun ha => (awake ha).of_tray (by simp [tray, ho, hi, hw, hc])⟩
  dsimp only
  generalize dispatched x.events = sent at goes
  cases goes with
  | queues h => exact .queues (ho.trans h)
  | sends filled alive h =>
    rw [← hk]
    exact .sends filled (hp ▸ alive) (ho.trans h)
  | ends h => exact .ends (hp ▸ h)

/-- Nothing is given and nothing goes out. -/
theorem quiet (h : x.session.outbox = s.outbox) (hn : dispatched x.events = []) :
    x.Dispatches s [] := by
  simp only [outbox, Prod.mk.injEq] at h
  obtain ⟨ho, hi, hw, hc, hk, hm⟩ := h
  refine ⟨?_, hk, hm, hi, fun _ writing => hw.symm.trans writing,
    fun awake => awake.of_tray (by simp [tray, ho, hi, hw, hc])⟩
  rw [hn]
  exact .queues (by rw [ho, List.append_nil])

/-- Nothing is given, and from then on nothing can be sent. -/
theorem still (hc : x.session.phase.canSend = false) (hn : dispatched x.events = [])
    (ho : x.session.output = s.output) (hi : x.session.inHook = s.inHook)
    (hw : x.session.writing = s.writing) (hk : x.session.outgoing = s.outgoing)
    (hm : x.session.frameMode = s.frameMode) : x.Dispatches s [] := by
  refine ⟨?_, hk, hm, hi, fun _ writing => hw.symm.trans writing, fun _ => .of_still hc⟩
  rw [hn]
  exact .queues (by rw [ho, List.append_nil])

theorem closed (hp : x.session.phase = .closed) (hn : dispatched x.events = [])
    (hi : x.session.inHook = s.inHook) (hw : x.session.writing = true → s.writing = true)
    (hk : x.session.outgoing = s.outgoing) (hm : x.session.frameMode = s.frameMode) :
    x.Dispatches s data := by
  refine ⟨?_, hk, hm, hi, fun _ => hw, fun _ => .of_still (by rw [hp]; rfl)⟩
  rw [hn]
  exact .ends (by rw [hp]; decide)

end Step.Dispatches

theorem accept_dispatches (now : Nat) (policy : AcceptPolicy) (s : Session) :
    (s.accept now policy).Dispatches s [] := by
  unfold accept
  split
  · rename_i phase hr hp
    obtain ⟨-, rfl⟩ := Phase.beginEstablish_ok hp
    refine .still ?_ rfl ?_ ?_ ?_ ?_ ?_ <;> simp [keepalive_eq, Phase.canSend]
  · exact .quiet rfl rfl

theorem handshake_dispatches (now : Nat) (target : String) (s : Session) :
    (s.handshake now target).Dispatches s [] := by
  unfold handshake
  split
  · rename_i hr hp
    obtain ⟨-, rfl⟩ := Phase.beginEstablish_ok hp
    refine .still ?_ rfl ?_ ?_ ?_ ?_ ?_ <;> simp [keepalive_eq, Phase.canSend]
  · exact .quiet rfl rfl

theorem read_dispatches (now : Nat) (s : Session) : (s.read now).Dispatches s [] := by
  unfold read
  split <;> exact .quiet rfl rfl

theorem ping_dispatches (now : Nat) (payload : Bytes) (s : Session) :
    (s.ping now payload).Dispatches s [] := by
  unfold ping
  split <;> exact .quiet rfl rfl

theorem pong_dispatches (now : Nat) (payload : Bytes) (s : Session) :
    (s.pong now payload).Dispatches s [] := by
  unfold pong
  split <;> exact .quiet rfl rfl

theorem close_dispatches (now : Nat) (reason : CloseReason) (s : Session) :
    (s.close now reason).Dispatches s [] := by
  unfold close
  split
  · rename_i h hp
    obtain rfl := Phase.beginClose_ok hp
    exact .still rfl rfl rfl rfl rfl rfl rfl
  · exact .quiet rfl rfl

/-- A write takes the whole queue. -/
theorem flush_dispatches (nextRead : Bool) (s : Session) : (s.flush nextRead).Dispatches s [] := by
  unfold flush
  split
  · rename_i h
    simp only [Bool.and_eq_true, Bool.not_eq_true', List.isEmpty_eq_false_iff] at h
    obtain ⟨⟨-, filled⟩, can⟩ := h
    obtain ⟨since, established⟩ := Phase.canSend_iff.mp can
    have alive : s.phase.rank ≤ 2 := by rw [established]; exact Nat.le_refl 2
    have sends {s' : Session} (hk : s'.outgoing = s.outgoing) (hp : s'.phase = s.phase)
        (ho : s'.output = []) : s.Dispatches [] [⟨s.outgoing, s.output⟩] s' := by
      rw [← List.append_nil s.output] at filled ⊢
      rw [← hk]
      exact .sends filled (hp ▸ alive) ho
    exact ⟨sends rfl rfl rfl, rfl, rfl, rfl, nofun, fun _ _ _ queued => absurd rfl queued⟩
  · exact .quiet rfl rfl

theorem push_dispatches (data : Bytes) (s : Session) : (s.push data).Dispatches s data :=
  (flush_dispatches true _).goOn (List.append_nil _) rfl (fun h => h) rfl rfl
    fun _ => flush_awake true _

theorem advance_dispatches (now : Nat) (nextRead : Bool) (s : Session) :
    (s.advance now nextRead).Dispatches s [] := by
  unfold advance
  split
  · exact .quiet rfl rfl
  · split
    · exact s.flush_dispatches nextRead
    · split
      · exact s.read_dispatches now
      · exact .quiet rfl rfl

theorem forceClose_dispatches (s : Session) : s.forceClose.Dispatches s [] := by
  unfold forceClose
  split <;> exact .closed rfl rfl rfl (fun h => h) rfl rfl

/-- A failure ends a session, whatever it had been given. -/
theorem fail_dispatches (op : String) (error : TransportError) {s s' : Session}
    (hi : s'.inHook = s.inHook) (hw : s'.writing = true → s.writing = true)
    (hk : s'.outgoing = s.outgoing) (hm : s'.frameMode = s.frameMode) :
    (s'.fail op error).Dispatches s [] := by
  have reports : dispatched
      (if (s'.isClosed || error.isSilent) = true then [] else [.warned (.sessionFailed op error)]) =
        [] := by
    split <;> rfl
  unfold fail forceClose
  dsimp only
  split
  · exact .closed rfl (by simpa [dispatched_append] using reports) hi hw hk hm
  · split
    · exact .closed rfl (by simpa [dispatched_append] using reports) hi hw hk hm
    · exact .closed rfl (by rw [dispatched_append, reports]; rfl) hi hw hk hm

theorem fire_dispatches (now instant : Nat) (s : Session) : (s.fire now instant).Dispatches s [] := by
  have fires := s.fires now instant
  generalize s.fire now instant = x at fires ⊢
  cases fires with
  | rests s' h => exact .quiet (congrArg outbox h :) rfl
  | drops s' h => exact s'.forceClose_dispatches.of_outbox (congrArg outbox h :).symm
  | pings s' s'' h h' =>
    refine .of_outbox (.leave (s'.ping_dispatches now []) (congrArg outbox h' :) ?_)
      (congrArg outbox h :).symm
    exact (congrArg phase h' :)

theorem absorb_dispatches (now : Nat) (c : Completion) (s : Session) (hi : s.inHook = false) :
    (s.absorb now c).Dispatches s [] := by
  have kept {op : String} {e : TransportError} :
      ((s.received c).fail op e).Dispatches s [] := by
    refine fail_dispatches op e ?_ ?_ ?_ ?_ <;> cases c <;> simp [received]
  rcases c with (e | _) | (e | response) | (e | frame) | (e | n) | (e | _) | (e | _) | (e | _) |
    ⟨kind, payload⟩
  case accepted.error | handshaked.error | read.error | written.error | pinged.error |
      ponged.error | closed.error =>
    exact kept
  case accepted.ok =>
    unfold absorb
    dsimp only
    split
    · exact (advance_dispatches now true _).goOn rfl hi (fun h => h) rfl rfl
        fun _ => advance_awake now true _
    · exact .quiet rfl rfl
  case handshaked.ok =>
    unfold absorb
    dsimp only
    split
    · refine (flush_dispatches true _).goOn ?_ ?_ ?_ ?_ ?_ fun _ => flush_awake true _ <;>
        simp [received, keepalive_eq, hi]
    · exact .quiet rfl rfl
  case read.ok | control => exact .quiet rfl rfl
  case written.ok =>
    have free : (s.received (.written (.ok n))).writing = true → s.writing = true :=
      fun writing => absurd writing Bool.false_ne_true
    exact (advance_dispatches now _ _).goOn rfl rfl free rfl rfl fun _ => advance_awake now _ _
  case pinged.ok | ponged.ok => exact (read_dispatches now _).of_outbox rfl
  case closed.ok =>
    unfold absorb
    dsimp only
    split <;> exact .closed rfl rfl rfl (fun h => h) rfl rfl

end Session

theorem Command.effect_dispatches (now : Nat) (s : Session) (c : Command) :
    (c.effect now s).Dispatches s (Action.apply c).pushes := by
  cases c with
  | push data => exact s.push_dispatches data
  | read => exact s.read_dispatches now
  | ping payload => exact s.ping_dispatches now payload
  | close reason => exact s.close_dispatches now reason
  | run => exact .quiet rfl rfl

/-- An action whose every effect on the queue is that of a push. -/
def Action.isTame : Action → Bool
  | .queue _ | .clearQueue | .setFrameMode _ | .launchTimerWith _ | .apply (.run _) => false
  | _ => true

theorem Action.effect_dispatches (now : Nat) (s : Session) {a : Action} (ht : a.isTame = true)
    (hi : s.inHook = false) : (a.effect now s).Dispatches s a.pushes := by
  cases a with
  | accept policy => exact s.accept_dispatches now policy
  | handshake target => exact s.handshake_dispatches now target
  | read => exact s.read_dispatches now
  | write => exact s.flush_dispatches true
  | push data => exact s.push_dispatches data
  | ping payload => exact s.ping_dispatches now payload
  | pong payload => exact s.pong_dispatches now payload
  | close reason => exact s.close_dispatches now reason
  | forceClose => exact s.forceClose_dispatches
  | keepalive => exact .quiet (by simp [effect, Session.outbox, Session.keepalive_eq]) rfl
  | fireTimer at? => exact s.fire_dispatches now _
  | apply c => exact c.effect_dispatches now s
  | complete c => exact s.absorb_dispatches now c hi
  | transportLost => exact .closed rfl rfl rfl (fun h => h) rfl rfl
  | queue | clearQueue | setFrameMode => cases ht
  | _ => exact .quiet rfl rfl

end Parley

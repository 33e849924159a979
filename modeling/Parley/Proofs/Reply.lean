import Parley.Proofs.Room
import Parley.Proofs.Waits

namespace Parley

open Chat (appended)

variable {σ : Type}

/-- An action of a hook that writes to its output, if anywhere. -/
def Action.isModest : Action → Bool
  | .append _ | .nextRead _ | .handshake _ | .read | .keepalive | .post .. | .warn _ | .deliver _
  | .leaveMark _ | .inspect _ => true
  | _ => false

/-- An action that calls no hook and runs no body. -/
def Action.isDirect : Action → Bool
  | .connected | .finish | .fireTimer _ | .complete _ | .apply (.run _) => false
  | _ => true

def Handler.Modest (h : Handler σ) : Prop :=
  ∀ hook s shared, ∀ a ∈ (h.react hook s shared).2, a.isModest = true

theorem Session.handshake_outbox (now : Nat) (target : String) (s : Session) :
    (s.handshake now target).session.outbox = s.outbox ∧
      dispatched (s.handshake now target).events = [] := by
  unfold handshake
  split
  · rename_i hr hp
    obtain ⟨created, rfl⟩ := Phase.beginEstablish_ok hp
    exact ⟨by simp [outbox, keepalive_eq, created, Phase.canSend], rfl⟩
  · exact ⟨rfl, rfl⟩

theorem Session.read_outbox (now : Nat) (s : Session) :
    (s.read now).session.outbox = s.outbox ∧ dispatched (s.read now).events = [] := by
  unfold read
  split <;> exact ⟨rfl, rfl⟩

theorem Session.asks_read {s : Session} (h : s.isClosed = false) (frame : Frame) :
    s.asks (.read (.ok frame)) = some (.message frame.data) := by
  simp [asks, h]

/-- A turn that has come to a moment, before anything happens. -/
def Turn.facing (t : Turn σ) (m : Moment σ) : Turn σ :=
  { t with
    now := m.now, shared := m.shared, draft := {}
    session := { t.session with reachable := m.reachable } }

theorem Turn.meet_eq (host : Host σ) (t : Turn σ) (m : Moment σ) :
    t.meet host m = (t.facing m).perform host m.action := rfl

/-- In the automatic mode a message that comes to its hook sets the type of what is sent from then
on. -/
def Session.tone (s : Session) : Action → FrameKind
  | .complete (.read (.ok frame)) =>
    if s.isClosed = false ∧ s.frameMode = .auto then frame.kind else s.outgoing
  | _ => s.outgoing

def Session.tuned (s : Session) (a : Action) : Session := { s with outgoing := s.tone a }

/-- What an action gives a session to send: what it pushes, or what the hook appends that it leads
to. -/
def Handler.gift (h : Handler σ) (t : Turn σ) : Action → Bytes
  | .complete c =>
    match t.session.asks c with
    | some hook =>
      appended (h.react (hook t.session.output) (t.session.asking t.now c).lend t.shared).2
    | none => []
  | a => a.pushes

/-- One turn comes from another as if by one step on `s` that is given `data`. -/
def Turn.Sends (t : Turn σ) (s : Session) (data : Bytes) (t' : Turn σ) : Prop :=
  (t.session.IsPlain → t'.session.IsPlain) ∧ ∃ x : Session.Step, t'.session = x.session ∧
    dispatched t'.events = dispatched t.events ++ dispatched x.events ∧ x.Dispatches s data

namespace Session

variable {s : Session} {c : Completion} {hook : Bytes → Hook}

theorem asking_outbox (now : Nat) (ha : s.asks c = some hook) :
    (s.asking now c).outbox =
      (s.output, s.inHook, s.writing, (s.asking now c).phase.canSend, s.outgoing, s.frameMode) := by
  unfold asks at ha
  split at ha
  · rfl
  · simp [asking, outbox, received, keepalive_eq]
  · rfl
  · cases ha

/-- What a hook left in the queue, behind what had been there, goes on from there. -/
theorem resume_dispatches (now : Nat) (draft : Draft) {r : Session} {data : Bytes} {can : Bool}
    (ha : s.asks c = some hook) (hi : s.inHook = false)
    (hr : r.outbox = (s.output ++ data, false, s.writing, can, s.outgoing, s.frameMode)) :
    (r.resume now c draft).Dispatches (s.tuned (.complete c)) data := by
  simp only [outbox, Prod.mk.injEq] at hr
  obtain ⟨ho, hi', hw, -, hk, hm⟩ := hr
  have queue : r.output ++ [] = s.output ++ data := by rw [List.append_nil, ho]
  have writes : r.writing = true → s.writing = true := fun writing => hw.symm.trans writing
  unfold asks at ha
  split at ha
  · exact (advance_dispatches now true r).goOn queue (hi.trans hi'.symm) writes hk.symm hm.symm
      fun _ => advance_awake now true r
  · exact (flush_dispatches _ _).goOn queue (hi.trans hi'.symm) writes hk.symm hm.symm
      fun _ => flush_awake _ _
  · rename_i frame
    split at ha
    · cases ha
    · rename_i alive
      unfold resume tuned tone
      dsimp only
      by_cases auto : s.frameMode = .auto
      · rw [if_pos ⟨Bool.eq_false_iff.mpr alive, auto⟩, if_pos (hm.trans auto)]
        exact (advance_dispatches now _ _).goOn queue (hi.trans hi'.symm) writes rfl hm.symm
          fun _ => advance_awake now _ _
      · rw [if_neg fun both => auto both.2, if_neg fun both => auto (hm.symm.trans both)]
        exact (advance_dispatches now _ _).goOn queue (hi.trans hi'.symm) writes hk.symm hm.symm
          fun _ => advance_awake now _ _
  · cases ha

end Session

theorem Turn.Sends.quiet {t t' : Turn σ} (ho : t'.session.outbox = t.session.outbox)
    (hs : dispatched t'.events = dispatched t.events)
    (hp : t.session.IsPlain → t'.session.IsPlain) : t.Sends t.session [] t' :=
  ⟨hp, t'.session.stay, rfl, by rw [hs]; exact (List.append_nil _).symm, .quiet ho rfl⟩

/-- A turn goes on without a change to the outbox of its session, and adds `data` to its draft. -/
structure Turn.Drafts (t t' : Turn σ) (data : Bytes) : Prop where
  draft : t'.draft.output = t.draft.output ++ data
  outbox : t'.session.outbox = t.session.outbox
  sent : dispatched t'.events = dispatched t.events
  plain : t.session.IsPlain → t'.session.IsPlain

namespace Turn

variable {t t' t'' : Turn σ} {data data' : Bytes}

theorem Drafts.trans (h : t.Drafts t' data) (h' : t'.Drafts t'' data') :
    t.Drafts t'' (data ++ data') where
  draft := by rw [h'.draft, h.draft, List.append_assoc]
  outbox := h'.outbox.trans h.outbox
  sent := h'.sent.trans h.sent
  plain := fun plain => h'.plain (h.plain plain)

theorem Drafts.told (hd : t'.draft = t.draft) (hs : t'.session = t.session)
    (he : dispatched t'.events = dispatched t.events) : t.Drafts t' [] :=
  ⟨by rw [hd, List.append_nil], by rw [hs], he, by rw [hs]; exact fun plain => plain⟩

theorem Drafts.stepped {a : Action} {f : Session → Session.Step}
    (ho : (f t.session).session.outbox = t.session.outbox)
    (hn : dispatched (f t.session).events = [])
    (hp : t.session.IsPlain → (f t.session).session.IsPlain) :
    t.Drafts ((t.note (.began t.now t.session a)).step f) [] :=
  ⟨(List.append_nil _).symm, ho, by
    simp [step, note, dispatched_append, hn], hp⟩

theorem perform_modest (host : Host σ) (t : Turn σ) {a : Action} (ha : a.isModest = true) :
    t.Drafts (t.perform host a) (appended [a]) := by
  cases a with
  | append data => exact ⟨by simp [perform, carryOut, note, appended], rfl, rfl, fun plain => plain⟩
  | nextRead follow => exact ⟨(List.append_nil _).symm, rfl, rfl, fun plain => plain⟩
  | handshake target =>
    obtain ⟨outbox, none_sent⟩ := t.session.handshake_outbox t.now target
    exact .stepped outbox none_sent fun plain => Session.handshake_waits t.now target plain
  | read =>
    obtain ⟨outbox, none_sent⟩ := t.session.read_outbox t.now
    exact .stepped outbox none_sent fun plain => Session.read_waits t.now plain
  | keepalive =>
    refine ⟨(List.append_nil _).symm, ?_, rfl, fun plain => Session.keepalive_waits t.now plain⟩
    simp [perform, carryOut, note, update, Session.outbox, Session.keepalive_eq]
  | post | warn | deliver | leaveMark | inspect =>
    refine .told rfl rfl ?_
    simp [perform, carryOut, emit, note, dispatched, Event.frame?]
  | _ => cases ha

theorem performAll_modest (host : Host σ) (actions : List Action)
    (ha : ∀ a ∈ actions, a.isModest = true) (t : Turn σ) :
    t.Drafts (t.performAll host actions) (appended actions) := by
  induction actions generalizing t with
  | nil => exact .told rfl rfl rfl
  | cons a actions ih =>
    have first := t.perform_modest host (ha a List.mem_cons_self)
    have rest := ih (fun a' ha' => ha a' (List.mem_cons_of_mem a ha')) (t.perform host a)
    have split : appended (a :: actions) = appended [a] ++ appended actions := by simp [appended]
    rw [split]
    exact first.trans rest

/-- An action that takes one step of its session and asks nobody. -/
structure Takes (t : Turn σ) (x : Session.Step) (t' : Turn σ) : Prop where
  session : t'.session = x.session
  events : t'.events = t.events ++ x.events
  shared : t'.shared = t.shared

theorem perform_effect (host : Host σ) (t : Turn σ) {a : Action} (ha : a.isDirect = true) :
    t.Takes (a.effect t.now t.session) (t.perform host a) := by
  cases a with
  | connected | finish | fireTimer | complete => cases ha
  | apply c =>
    cases c with
    | run => cases ha
    | _ => exact ⟨rfl, rfl, rfl⟩
  | accept | handshake | read | write | push | ping | pong | close | forceClose =>
    exact ⟨rfl, rfl, rfl⟩
  | post | warn | deliver | leaveMark | inspect => exact ⟨rfl, rfl, rfl⟩
  | _ => exact ⟨rfl, (List.append_nil _).symm, rfl⟩

/-- A watchdog that comes to no body does what its own stages are. -/
theorem perform_fire (host : Host σ) (t : Turn σ) (at? : Option Nat)
    (own : ∀ body, (t.session.poll (at?.getD t.now)).1 ≠ some (.custom body)) :
    t.Takes (t.session.fire t.now (at?.getD t.now)) (t.perform host (.fireTimer at?)) := by
  rcases hq : t.session.poll (at?.getD t.now) with ⟨action?, s⟩
  rw [hq] at own
  simp only [perform, carryOut, fireTimer, note, Session.fire, hq]
  rcases action? with _ | (_ | body | _)
  · exact ⟨rfl, (List.append_nil _).symm, rfl⟩
  · dsimp only
    split <;> exact ⟨rfl, rfl, rfl⟩
  · exact absurd rfl (own body)
  · exact ⟨rfl, rfl, rfl⟩

/-- A completion that calls no hook. -/
theorem perform_absorb (host : Host σ) (t : Turn σ) {c : Completion} (ha : t.session.asks c = none)
    (hc : ∀ kind payload, c ≠ .control kind payload) :
    t.Takes (t.session.absorb t.now c) (t.perform host (.complete c)) := by
  rcases c with (e | _) | (e | response) | (e | frame) | (e | n) | (e | _) | (e | _) | (e | _) |
    ⟨kind, payload⟩
  case accepted.error | handshaked.error | read.error | written.error | pinged.error |
      ponged.error | closed.error | written.ok | pinged.ok | ponged.ok =>
    exact ⟨rfl, rfl, rfl⟩
  case accepted.ok =>
    simp only [perform, carryOut, complete, settle, accepted, note, update, Session.absorb]
    cases hp : t.session.phase with
    | establishing =>
      cases hr : t.session.role with
      | server => simp [Session.asks, hp, hr] at ha
      | client =>
        constructor <;> simp [Phase.completeEstablish, step, Session.received, Session.lend,
          Session.restore, hp, hr]
    | _ => constructor <;> simp [Phase.completeEstablish, Session.received, hp]
  case handshaked.ok =>
    simp only [perform, carryOut, complete, settle, handshaked, note, update, Session.absorb]
    cases hp : t.session.phase with
    | establishing =>
      cases hr : t.session.role with
      | client => simp [Session.asks, hp, hr] at ha
      | server =>
        constructor <;> simp [Phase.completeEstablish, step, Session.keepalive_eq, Session.received,
          Session.lend, Session.restore, hp, hr]
    | _ => constructor <;> simp [Phase.completeEstablish, Session.received, hp]
  case read.ok =>
    have closed : t.session.isClosed = true := by simpa [Session.asks] using ha
    change t.Takes _ (if t.session.isClosed = true then _ else _)
    rw [if_pos closed]
    exact ⟨rfl, (List.append_nil _).symm, rfl⟩
  case closed.ok => exact ⟨rfl, (List.append_nil _).symm, rfl⟩
  case control => exact absurd rfl (hc kind payload)

/-- A completion that calls a hook with an output. -/
theorem perform_asks (host : Host σ) (t : Turn σ) {c : Completion} {hook : Bytes → Hook}
    (ha : t.session.asks c = some hook) :
    ∃ u : Turn σ, u.session = t.session.asking t.now c ∧ u.shared = t.shared ∧
      u.events = t.events ∧ t.perform host (.complete c) = (u.consult host hook).1.step
        (·.resume (u.consult host hook).1.now c (u.consult host hook).2) := by
  refine ⟨{ t with
    session := t.session.asking t.now c
    record := t.record ++ [.began t.now t.session (.complete c)] }, rfl, rfl, rfl, ?_⟩
  unfold Session.asks at ha
  split at ha
  · split at ha
    · rename_i hr hp
      cases ha
      simp [perform, carryOut, complete, settle, accepted, note, update, Phase.completeEstablish,
        Session.asking, Session.received, Session.resume, hr, hp]
    · cases ha
  · split at ha
    · rename_i hr hp
      cases ha
      simp [perform, carryOut, complete, settle, handshaked, note, update, Phase.completeEstablish,
        Session.keepalive_eq, Session.asking, Session.received, Session.resume, hr, hp, step]
    · cases ha
  · split at ha
    · cases ha
    · rename_i alive
      cases ha
      change (if t.session.isClosed = true then _ else _) = _
      rw [if_neg alive]
      rfl
  · cases ha

end Turn

namespace Handler.Modest

variable {h : Handler σ} (hm : h.Modest) (depth : Nat)

include hm

theorem call_drafts (hook : Hook) (t : Turn σ) :
    t.Drafts ((h.host (depth + 1)).call hook t)
      (appended (h.react hook t.session t.shared).2) := by
  have entered : t.Drafts (Turn.emit (.entered hook)
      { t.note (.called t.session hook) with
        shared := (h.react hook t.session t.shared).1 }) [] := by
    refine .told rfl rfl ?_
    simp [Turn.emit, Turn.note, dispatched, Event.frame?]
  exact entered.trans (Turn.performAll_modest _ _ (hm hook t.session t.shared) _)

/-- A hook without an output has no say in what goes out. -/
theorem call_quiet (hook : Hook) (t : Turn σ) :
    (t.call (h.host (depth + 1)) hook).session.outbox = t.session.outbox ∧
      dispatched (t.call (h.host (depth + 1)) hook).events = dispatched t.events ∧
      (t.session.IsPlain → (t.call (h.host (depth + 1)) hook).session.IsPlain) := by
  obtain ⟨-, outbox, sent, plain⟩ := hm.call_drafts depth hook { t with draft := {} }
  exact ⟨outbox, sent, plain⟩

/-- A hook with an output leaves the queue as it was, and behind it what the hook appended. -/
theorem consult_drafts (hook : Bytes → Hook) (t : Turn σ) :
    (t.consult (h.host (depth + 1)) hook).1.session.outbox =
        (t.session.output ++ appended (h.react (hook t.session.output) t.session.lend t.shared).2,
          false, t.session.writing, t.session.phase.canSend, t.session.outgoing,
          t.session.frameMode) ∧
      dispatched (t.consult (h.host (depth + 1)) hook).1.events = dispatched t.events ∧
      (t.session.IsPlain → (t.consult (h.host (depth + 1)) hook).1.session.IsPlain) := by
  obtain ⟨draft, outbox, sent, plain⟩ := hm.call_drafts depth (hook t.session.output)
    { t with
      session := t.session.lend, draft := { output := t.session.output }
      record := t.record ++ [.lent t.session.output] }
  generalize ht : (h.host (depth + 1)).call (hook t.session.output) _ = told at draft outbox sent plain
  rw [consult_eq ht]
  simp only [Session.outbox, Session.lend, Prod.mk.injEq] at outbox
  obtain ⟨ho, -, hw, hc, hk, hm⟩ := outbox
  refine ⟨?_, sent, plain⟩
  simp only [Session.outbox, Session.restore, draft, ho, hw, hc, hk, hm, List.append_nil]

theorem control_sends (t : Turn σ) (kind : ControlKind) (payload : Bytes) :
    t.Sends t.session [] (t.perform (h.host (depth + 1)) (.complete (.control kind payload))) := by
  have called (hook : Hook) : t.Sends t.session []
      (((t.note (.began t.now t.session (.complete (.control kind payload)))).call
        (h.host (depth + 1)) hook).step (·.write)) := by
    obtain ⟨outbox, sent, plain⟩ := hm.call_quiet depth hook
      (t.note (.began t.now t.session (.complete (.control kind payload))))
    refine ⟨fun hp => Session.flush_waits true (plain hp), _, rfl, ?_, ?_⟩
    · rw [Turn.step, dispatched_append, sent]
      rfl
    · exact (Session.flush_dispatches true _).of_outbox outbox.symm
  simp only [Turn.perform, Turn.carryOut, Turn.complete, Turn.settle, Turn.controlReceived]
  change t.Sends _ [] (if t.session.isClosed = true then _ else _)
  split
  · exact .quiet rfl rfl fun hp => hp
  · exact called _

theorem asks_sends {t : Turn σ} {c : Completion} {hook : Bytes → Hook}
    (ha : t.session.asks c = some hook) (hi : t.session.inHook = false) :
    t.Sends (t.session.tuned (.complete c)) (h.gift t (.complete c))
      (t.perform (h.host (depth + 1)) (.complete c)) := by
  obtain ⟨u, hs, hsh, he, performed⟩ := Turn.perform_asks (h.host (depth + 1)) t ha
  obtain ⟨outbox, sent, plain⟩ := hm.consult_drafts depth hook u
  have asked := Session.asking_outbox t.now ha
  simp only [Session.outbox, Prod.mk.injEq] at asked
  obtain ⟨ho, -, hw, -, hk, hm⟩ := asked
  rw [hs, ho, hw, hk, hm, hsh] at outbox
  rw [hs] at plain
  have resumed := Session.resume_dispatches (u.consult (h.host (depth + 1)) hook).1.now
    (u.consult (h.host (depth + 1)) hook).2 ha hi outbox
  rw [performed]
  refine ⟨fun hp => ?_, _, rfl, ?_, ?_⟩
  · exact Session.resume_waits _ c _ (plain (Session.asking_waits t.now c hp))
  · rw [Turn.step, dispatched_append, sent, he]
  · simpa only [gift, ha] using resumed

omit hm in
theorem absorb_sends {t : Turn σ} {c : Completion} (ha : t.session.asks c = none)
    (hc : ∀ kind payload, c ≠ .control kind payload) (hi : t.session.inHook = false) :
    t.Sends (t.session.tuned (.complete c)) (h.gift t (.complete c))
      (t.perform (h.host (depth + 1)) (.complete c)) := by
  obtain ⟨session, events, -⟩ := Turn.perform_absorb (h.host (depth + 1)) t ha hc
  have tuned : t.session.tuned (.complete c) = t.session := by
    unfold Session.tuned Session.tone
    split
    · rename_i frame he
      cases he
      have closed : t.session.isClosed = true := by simpa [Session.asks] using ha
      simp [closed]
    · rfl
  refine ⟨fun hp => session ▸ Session.absorb_waits t.now c hp, _, session, ?_, ?_⟩
  · rw [events, dispatched_append]
  · rw [tuned]
    simpa only [gift, ha] using t.session.absorb_dispatches t.now c hi

omit hm in
theorem direct_sends {t : Turn σ} {a : Action} (ha : a.isDirect = true) (ht : a.isTame = true)
    (hi : t.session.inHook = false) :
    t.Sends t.session a.pushes (t.perform (h.host (depth + 1)) a) := by
  obtain ⟨session, events, -⟩ := Turn.perform_effect (h.host (depth + 1)) t ha
  have bodiless : ∀ body, a = .launchTimerWith body → False := by
    rintro _ rfl
    cases ht
  refine ⟨fun hp => session ▸ Action.effect_waits t.now bodiless hp, _, session, ?_, ?_⟩
  · rw [events, dispatched_append]
  · exact Action.effect_dispatches t.now t.session ht hi

/-- Whatever happens to a session with such a handler, it is given its gift and goes on. -/
theorem perform_sends {t : Turn σ} {a : Action} (ht : a.isTame = true)
    (hi : t.session.inHook = false) (hp : t.session.IsPlain) :
    t.Sends (t.session.tuned a) (h.gift t a) (t.perform (h.host (depth + 1)) a) := by
  cases a with
  | complete c =>
    cases ha : t.session.asks c with
    | some hook => exact hm.asks_sends depth ha hi
    | none =>
      by_cases hc : ∃ kind payload, c = .control kind payload
      · obtain ⟨kind, payload, rfl⟩ := hc
        exact hm.control_sends depth t kind payload
      · exact absorb_sends depth ha (fun kind payload he => hc ⟨kind, payload, he⟩) hi
  | connected =>
    simp only [Turn.perform, Turn.carryOut, Turn.connected]
    split
    · obtain ⟨outbox, sent, plain⟩ := hm.call_quiet depth .connect
        (t.note (.began t.now t.session .connected))
      exact .quiet outbox sent plain
    · exact .quiet rfl rfl fun hp => hp
  | finish =>
    simp only [Turn.perform, Turn.carryOut, Turn.finish]
    split
    · exact .quiet rfl rfl fun hp => hp
    · obtain ⟨outbox, sent, plain⟩ := hm.call_quiet depth .finish
        ((t.note (.began t.now t.session .finish)).update fun s => { s with ended := true })
      exact .quiet outbox sent plain
  | fireTimer at? =>
    obtain ⟨session, events, -⟩ := Turn.perform_fire (h.host (depth + 1)) t at?
      fun body => Session.poll_waits hp
    refine ⟨fun hp => session ▸ Session.fire_waits t.now _ hp, _, session, ?_, ?_⟩
    · rw [events, dispatched_append]
    · exact t.session.fire_dispatches t.now _
  | queue | clearQueue | setFrameMode | launchTimerWith => cases ht
  | apply c =>
    cases c with
    | run => cases ht
    | _ => exact direct_sends depth rfl ht hi
  | _ => exact direct_sends depth rfl ht hi

end Handler.Modest

end Parley

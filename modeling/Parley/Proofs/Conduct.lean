import Parley.Proofs.Hearsay

namespace Parley

open Chat

mutual

def Command.spares : Command → Bool
  | .run body => Action.allSpare body
  | _ => true

/-- An action that ends no session, neither at once nor when what it sets up or posts is run. -/
def Action.spares : Action → Bool
  | .finish => false
  | .launchTimerWith body => Action.allSpare body
  | .apply command | .post _ command => command.spares
  | _ => true

def Action.allSpare : List Action → Bool
  | [] => true
  | a :: actions => a.spares && Action.allSpare actions

end

theorem Action.allSpare_iff {actions : List Action} :
    allSpare actions = true ↔ ∀ a ∈ actions, a.spares = true := by
  induction actions with
  | nil => simp [allSpare]
  | cons a actions ih => simp [allSpare, ih]

/-- An event that does not tell of an end, and brings none about elsewhere. -/
def Event.isDiscreet : Event → Bool
  | .entered hook => hook ≠ .finish
  | .posted _ command => command.spares
  | _ => true

namespace Session

/-- The watchdog waits for nothing that would end the session. -/
def Spares (s : Session) : Prop := s.Waits fun body => Action.allSpare body = true

/-- Who a session is, and whether its handler has heard of its end. -/
def tag (s : Session) : SessionId × Bool := (s.id, s.ended)

structure Step.Discreet (s : Session) (x : Step) : Prop where
  tag : x.session.tag = s.tag
  told : ∀ e ∈ x.events, e.isDiscreet = true

theorem accept_discreet (now : Nat) (policy : AcceptPolicy) (s : Session) :
    (s.accept now policy).Discreet s := by
  unfold accept
  split <;> exact ⟨by simp [tag, keepalive_eq], by simp [Event.isDiscreet]⟩

theorem handshake_discreet (now : Nat) (target : String) (s : Session) :
    (s.handshake now target).Discreet s := by
  unfold handshake
  split <;> exact ⟨by simp [tag, keepalive_eq], by simp [Event.isDiscreet]⟩

theorem read_discreet (now : Nat) (s : Session) : (s.read now).Discreet s := by
  unfold read
  split <;> exact ⟨rfl, by simp [Event.isDiscreet]⟩

theorem flush_discreet (nextRead : Bool) (s : Session) : (s.flush nextRead).Discreet s := by
  unfold flush
  split <;> exact ⟨rfl, by simp [Event.isDiscreet]⟩

theorem ping_discreet (now : Nat) (payload : Bytes) (s : Session) :
    (s.ping now payload).Discreet s := by
  unfold ping
  split <;> exact ⟨rfl, by simp [Event.isDiscreet]⟩

theorem pong_discreet (now : Nat) (payload : Bytes) (s : Session) :
    (s.pong now payload).Discreet s := by
  unfold pong
  split <;> exact ⟨rfl, by simp [Event.isDiscreet]⟩

theorem close_discreet (now : Nat) (reason : CloseReason) (s : Session) :
    (s.close now reason).Discreet s := by
  unfold close
  split <;> exact ⟨rfl, by simp [Event.isDiscreet]⟩

theorem forceClose_discreet (s : Session) : s.forceClose.Discreet s := by
  unfold forceClose
  split <;> exact ⟨rfl, by simp [Event.isDiscreet]⟩

namespace Step.Discreet

variable {s s' : Session} {x : Step}

theorem quiet (h : x.session.tag = s.tag) (hn : x.events = []) : x.Discreet s :=
  ⟨h, by simp [hn]⟩

theorem of_tag (h : x.Discreet s) (hs : s.tag = s'.tag) : x.Discreet s' :=
  ⟨h.tag.trans hs, h.told⟩

end Step.Discreet

theorem fail_discreet (op : String) (error : TransportError) (s : Session) :
    (s.fail op error).Discreet s := by
  have dropped := s.forceClose_discreet
  have ended : s.terminate.stay.Discreet s := ⟨rfl, by simp⟩
  have quiet (x : Step) (hx : x.Discreet s) (reports : List Event)
      (hr : ∀ e ∈ reports, e.isDiscreet = true) :
      Step.Discreet s { x with events := reports ++ x.events } := by
    refine ⟨hx.tag, fun e he => ?_⟩
    rcases List.mem_append.mp he with he | he
    · exact hr e he
    · exact hx.told e he
  unfold fail
  refine quiet _ ?_ _ ?_
  · split
    · exact ended
    · exact dropped
  · split <;> simp [Event.isDiscreet]

theorem advance_discreet (now : Nat) (nextRead : Bool) (s : Session) :
    (s.advance now nextRead).Discreet s := by
  unfold advance
  split
  · exact .quiet rfl rfl
  · split
    · exact s.flush_discreet nextRead
    · split
      · exact s.read_discreet now
      · exact .quiet rfl rfl

theorem push_discreet (data : Bytes) (s : Session) : (s.push data).Discreet s :=
  (flush_discreet true { s with output := s.output ++ data }).of_tag rfl

theorem tag_of_unwatched {s s' : Session} (h : s'.unwatched = s.unwatched) : s'.tag = s.tag :=
  show s'.unwatched.tag = s.unwatched.tag by rw [h]

theorem fire_discreet (now instant : Nat) (s : Session) : (s.fire now instant).Discreet s := by
  have fires := s.fires now instant
  generalize s.fire now instant = x at fires ⊢
  cases fires with
  | rests s' same => exact .quiet (tag_of_unwatched same) rfl
  | drops s' same => exact s'.forceClose_discreet.of_tag (tag_of_unwatched same)
  | pings s' s'' same same' =>
    have pinged := s'.ping_discreet now []
    exact ⟨(tag_of_unwatched same').trans (pinged.tag.trans (tag_of_unwatched same)), pinged.told⟩

theorem received_tag (c : Completion) (s : Session) : (s.received c).tag = s.tag := by
  cases c <;> rfl

theorem absorb_discreet (now : Nat) (c : Completion) (s : Session) :
    (s.absorb now c).Discreet s := by
  have received := s.received_tag c
  rcases c with (e | _) | (e | response) | (e | frame) | (e | n) | (e | _) | (e | _) | (e | _) |
    ⟨kind, payload⟩
  case accepted.error | handshaked.error | read.error | written.error | pinged.error |
      ponged.error | closed.error =>
    exact (fail_discreet _ e _).of_tag received
  case accepted.ok =>
    unfold absorb
    dsimp only
    split
    · exact (advance_discreet now true _).of_tag received
    · exact .quiet received rfl
  case handshaked.ok =>
    unfold absorb
    dsimp only
    split
    · exact (flush_discreet true _).of_tag (by rw [keepalive_eq]; exact received)
    · exact .quiet received rfl
  case read.ok | control => exact .quiet received rfl
  case written.ok => exact (advance_discreet now _ _).of_tag received
  case pinged.ok | ponged.ok => exact (read_discreet now _).of_tag received
  case closed.ok =>
    unfold absorb
    dsimp only
    split <;> exact .quiet received rfl

theorem asks_ne_finish {c : Completion} {hook : Bytes → Hook} {s : Session}
    (ha : s.asks c = some hook) (output : Bytes) : hook output ≠ .finish := by
  unfold asks at ha
  split at ha
  · split at ha
    · obtain rfl := Option.some.inj ha
      exact Hook.noConfusion
    · cases ha
  · split at ha
    · obtain rfl := Option.some.inj ha
      exact Hook.noConfusion
    · cases ha
  · split at ha
    · cases ha
    · obtain rfl := Option.some.inj ha
      exact Hook.noConfusion
  · cases ha

theorem asking_tag (now : Nat) (c : Completion) (s : Session) : (s.asking now c).tag = s.tag := by
  unfold asking
  split
  · exact s.received_tag _
  · rw [keepalive_eq]
    exact s.received_tag _
  · exact s.received_tag _
  · exact s.received_tag _

theorem resume_discreet (now : Nat) (c : Completion) (draft : Draft) (s : Session) :
    (s.resume now c draft).Discreet s := by
  unfold resume
  split
  · exact s.advance_discreet now true
  · exact (flush_discreet _ _).of_tag rfl
  · exact (advance_discreet now _ _).of_tag (by split <;> rfl)
  · exact .quiet rfl rfl

end Session

/-- An action that spares its session does so at once. -/
theorem Action.effect_discreet (now : Nat) (s : Session) {a : Action} (ha : a.spares = true) :
    (a.effect now s).Discreet s := by
  cases a with
  | accept policy => exact s.accept_discreet now policy
  | handshake target => exact s.handshake_discreet now target
  | read => exact s.read_discreet now
  | write => exact s.flush_discreet true
  | push data => exact s.push_discreet data
  | ping payload => exact s.ping_discreet now payload
  | pong payload => exact s.pong_discreet now payload
  | close reason => exact s.close_discreet now reason
  | forceClose => exact s.forceClose_discreet
  | setFrameMode mode => cases mode <;> exact .quiet rfl rfl
  | keepalive => exact .quiet (by simp [effect, Session.tag, Session.keepalive_eq]) rfl
  | fireTimer at? => exact s.fire_discreet now _
  | complete c => exact s.absorb_discreet now c
  | apply c =>
    cases c with
    | push data => exact s.push_discreet data
    | read => exact s.read_discreet now
    | ping payload => exact s.ping_discreet now payload
    | close reason => exact s.close_discreet now reason
    | run body => exact .quiet rfl rfl
  | finish => cases ha
  | post receiver command =>
    refine ⟨rfl, fun e he => ?_⟩
    obtain rfl := List.mem_singleton.mp he
    exact ha
  | warn | deliver | leaveMark | inspect =>
    refine ⟨rfl, fun e he => ?_⟩
    obtain rfl := List.mem_singleton.mp he
    rfl
  | _ => exact .quiet rfl rfl

/-- An action that spares its session has it wait for nothing else. -/
theorem Action.effect_spares (now : Nat) {s : Session} {a : Action} (ha : a.spares = true)
    (hs : s.Spares) : (a.effect now s).session.Spares := by
  refine Action.effect_waits now ?_ hs
  rintro body rfl
  exact ha

namespace Turn

/-- One turn comes from another without an end of its session, and its room by the session's own
calls. -/
structure Minds (t t' : Turn Room) : Prop where
  tag : t'.session.tag = t.session.tag
  waits : t'.session.Spares
  room : ∃ calls : List Call, (∀ c ∈ calls, c.session.id = t.session.id) ∧
    t'.shared = t.shared.after calls
  told : ∃ news, t'.events = t.events ++ news ∧ ∀ e ∈ news, e.isDiscreet = true

namespace Minds

variable {t t' t'' : Turn Room}

theorem same (tag : t'.session.tag = t.session.tag) (waits : t'.session.Spares)
    (room : t'.shared = t.shared) (told : t'.events = t.events) : t.Minds t' :=
  ⟨tag, waits, ⟨[], by simp, room⟩, [], by simp [told], by simp⟩

theorem trans (h : t.Minds t') (h' : t'.Minds t'') : t.Minds t'' := by
  obtain ⟨calls, own, room⟩ := h.room
  obtain ⟨calls', own', room'⟩ := h'.room
  obtain ⟨news, he, hn⟩ := h.told
  obtain ⟨news', he', hn'⟩ := h'.told
  have id : t'.session.id = t.session.id := congrArg Prod.fst h.tag
  refine ⟨h'.tag.trans h.tag, h'.waits, ⟨calls ++ calls', ?_, ?_⟩, news ++ news', ?_, ?_⟩
  · intro c hc
    rcases List.mem_append.mp hc with hc | hc
    · exact own c hc
    · exact (own' c hc).trans id
  · rw [room', room, Room.after_append]
  · rw [he', he, List.append_assoc]
  · intro e hm
    rcases List.mem_append.mp hm with hm | hm
    · exact hn e hm
    · exact hn' e hm

theorem takes {x : Session.Step} (hx : x.Discreet t.session) (hw : x.session.Spares)
    (h : t.Takes x t') : t.Minds t' := by
  obtain ⟨session, events, shared⟩ := h
  refine ⟨?_, ?_, ⟨[], by simp, shared⟩, x.events, events, hx.told⟩
  · rw [session]
    exact hx.tag
  · rw [session]
    exact hw

theorem step {f : Session → Session.Step} (hf : (f t.session).Discreet t.session)
    (hw : (f t.session).session.Spares) : t.Minds (t.step f) :=
  takes hf hw ⟨rfl, rfl, rfl⟩

end Minds

end Turn

/-- Hooks but the last one, and bodies that end no session, do not end the session. -/
structure Host.Minds (host : Host Room) : Prop where
  call (hook : Hook) (t : Turn Room) (hn : hook ≠ .finish) (hw : t.session.Spares) :
    t.Minds (host.call hook t)
  run (body : List Action) (t : Turn Room) (hb : Action.allSpare body = true)
    (hw : t.session.Spares) : t.Minds (host.run body t)

namespace Turn

variable {host : Host Room} (hh : host.Minds) {t : Turn Room} (hw : t.session.Spares)

include hh hw

theorem call_minds {hook : Hook} (hn : hook ≠ .finish) : t.Minds (t.call host hook) := by
  obtain ⟨tag, waits, room, told⟩ := hh.call hook { t with draft := {} } hn hw
  exact ⟨tag, waits, room, told⟩

theorem run_minds {body : List Action} (hb : Action.allSpare body = true) :
    t.Minds (t.run host body) := by
  obtain ⟨tag, waits, room, told⟩ := hh.run body { t with draft := {} } hb hw
  exact ⟨tag, waits, room, told⟩

theorem consult_minds {hook : Bytes → Hook} (hn : ∀ output, hook output ≠ .finish) :
    t.Minds (t.consult host hook).1 := by
  obtain ⟨tag, waits, room, told⟩ := hh.call (hook t.session.output)
    { ((t.note (.lent t.session.output)).update (·.lend)) with
      draft := { output := t.session.output } } (hn _) hw
  exact ⟨tag, waits, room, told⟩

omit hh in
theorem direct_minds {a : Action} (hd : a.isDirect = true) (ha : a.spares = true) :
    t.Minds (t.perform host a) :=
  .takes (Action.effect_discreet t.now t.session ha) (Action.effect_spares t.now ha hw)
    (t.perform_effect host hd)

theorem asks_minds {c : Completion} {hook : Bytes → Hook} (ha : t.session.asks c = some hook) :
    t.Minds (t.perform host (.complete c)) := by
  obtain ⟨u, session, shared, events, performed⟩ := t.perform_asks host ha
  have asking : t.Minds u := by
    refine .same ?_ ?_ shared events
    · rw [session, Session.asking_tag]
    · rw [session]
      exact Session.asking_waits t.now c hw
  have asked := asking.trans (consult_minds hh asking.waits (Session.asks_ne_finish ha))
  rw [performed]
  exact asked.trans (.step (Session.resume_discreet _ c _ _)
    (Session.resume_waits _ c _ asked.waits))

theorem control_minds (kind : ControlKind) (payload : Bytes) :
    t.Minds (t.perform host (.complete (.control kind payload))) := by
  have began : t.Minds (t.note (.began t.now t.session (.complete (.control kind payload)))) :=
    .same rfl hw rfl rfl
  have heard (hook : Hook) (hn : hook ≠ .finish) : t.Minds
      (((t.note (.began t.now t.session (.complete (.control kind payload)))).call host hook).step
        (·.write)) := by
    have called := began.trans (call_minds hh began.waits hn)
    exact called.trans (.step (Session.flush_discreet true _)
      (Session.flush_waits true called.waits))
  simp only [perform, carryOut, complete, settle, controlReceived]
  change t.Minds (if t.session.isClosed = true then _ else _)
  split
  · exact began
  · refine heard _ ?_
    cases kind <;> exact Hook.noConfusion

theorem complete_minds (c : Completion) : t.Minds (t.perform host (.complete c)) := by
  cases ha : t.session.asks c with
  | some hook => exact asks_minds hh hw ha
  | none =>
    by_cases hc : ∃ kind payload, c = .control kind payload
    · obtain ⟨kind, payload, rfl⟩ := hc
      exact control_minds hh hw kind payload
    · exact .takes (t.session.absorb_discreet t.now c) (Session.absorb_waits t.now c hw)
        (t.perform_absorb host ha fun kind payload he => hc ⟨kind, payload, he⟩)

theorem fireTimer_minds (at? : Option Nat) : t.Minds (t.perform host (.fireTimer at?)) := by
  by_cases own : ∃ body, (t.session.poll (at?.getD t.now)).1 = some (.custom body)
  · obtain ⟨body, taken⟩ := own
    have spared := Session.poll_waits hw taken
    have polled : t.Minds { t.note (.began t.now t.session (.fireTimer at?)) with
        session := (t.session.poll (at?.getD t.now)).2 } := by
      refine .same ?_ (Session.polled_waits _ hw) rfl rfl
      simp only [Session.poll]
      split <;> rfl
    have ran := polled.trans (run_minds hh polled.waits spared)
    have performed : t.perform host (.fireTimer at?) =
        Turn.run host body { t.note (.began t.now t.session (.fireTimer at?)) with
          session := (t.session.poll (at?.getD t.now)).2 } := by
      simp only [perform, carryOut, fireTimer, note, taken]
    rw [performed]
    exact ran
  · have fired := t.perform_fire host at? fun body taken => own ⟨body, taken⟩
    exact .takes (t.session.fire_discreet t.now _) (Session.fire_waits t.now _ hw) fired

theorem perform_minds {a : Action} (ha : a.spares = true) : t.Minds (t.perform host a) := by
  cases a with
  | complete c => exact complete_minds hh hw c
  | fireTimer at? => exact fireTimer_minds hh hw at?
  | connected =>
    have began : t.Minds (t.note (.began t.now t.session .connected)) := .same rfl hw rfl rfl
    simp only [perform, carryOut, connected]
    split
    · exact began.trans (call_minds hh began.waits Hook.noConfusion)
    · exact began
  | apply c =>
    cases c with
    | run body =>
      have began : t.Minds (t.note (.began t.now t.session (.apply (.run body)))) :=
        .same rfl hw rfl rfl
      exact began.trans (run_minds hh began.waits ha)
    | _ => exact direct_minds hw rfl ha
  | finish => cases ha
  | _ => exact direct_minds hw rfl ha

theorem performAll_minds {actions : List Action} (ha : ∀ a ∈ actions, a.spares = true) :
    t.Minds (t.performAll host actions) := by
  induction actions generalizing t with
  | nil => exact .same rfl hw rfl rfl
  | cons a actions ih =>
    have first := perform_minds hh hw (ha a List.mem_cons_self)
    exact first.trans (ih first.waits fun a' hm => ha a' (List.mem_cons_of_mem a hm))

end Turn

theorem Chat.Room.Utters.spares {a : Action} (h : Utters a) : a.spares = true := by
  cases h <;> rfl

/-- The room's service ends no session, at any depth. -/
theorem Handler.chatRoom_minds (depth : Nat) : (chatRoom.host depth).Minds := by
  induction depth with
  | zero => exact ⟨fun _ t _ hw => .same rfl hw rfl rfl, fun _ t _ hw => .same rfl hw rfl rfl⟩
  | succ depth ih =>
    refine ⟨fun hook t hn hw => ?_, fun body t hb hw => ?_⟩
    · have entered : t.Minds (Turn.emit (.entered hook)
          { t.note (.called t.session hook) with
            shared := (t.shared.answer ⟨t.session, hook⟩).1 }) :=
        ⟨rfl, hw, ⟨[⟨t.session, hook⟩], by simp, rfl⟩, [.entered hook], rfl,
          by simp [Event.isDiscreet, hn]⟩
      exact entered.trans (Turn.performAll_minds ih entered.waits
        fun a ha => (t.shared.answer_utters ⟨t.session, hook⟩ a ha).spares)
    · exact Turn.performAll_minds ih hw (Action.allSpare_iff.mp hb)

/-- A session ends once. -/
theorem Turn.perform_finish_ended {σ : Type} (host : Host σ) {t : Turn σ}
    (h : t.session.ended = true) :
    t.perform host .finish = t.note (.began t.now t.session .finish) :=
  if_pos h

/-- One turn comes from another by the end of its session, and by nothing that ends another. -/
structure Turn.Parts (t t' : Turn Room) : Prop where
  ended : t'.session.ended = true
  room : t'.shared = (t.shared.leave t.session.id).1
  told : ∃ news, t'.events = t.events ++ .entered .finish :: news ∧
    ∀ e ∈ news, e.isDiscreet = true

theorem Handler.chatRoom_parts (depth : Nat) {t : Turn Room} (hw : t.session.Spares)
    (live : t.session.ended = false) :
    t.Parts (t.perform (chatRoom.host (depth + 1)) .finish) := by
  let gone := (t.note (.began t.now t.session .finish)).update fun s => { s with ended := true }
  have performed : t.perform (chatRoom.host (depth + 1)) .finish =
      gone.call (chatRoom.host (depth + 1)) .finish :=
    if_neg (Bool.eq_false_iff.mp live)
  -- What the room answers with is carried out behind the entry of the hook.
  let entered := Turn.emit (.entered .finish)
    { gone.note (.called gone.session .finish) with
      draft := {}, shared := (t.shared.leave t.session.id).1 }
  have answered : entered.Minds
      (entered.performAll (chatRoom.host depth) (t.shared.leave t.session.id).2) :=
    Turn.performAll_minds (t := entered) (chatRoom_minds depth) hw
      fun a ha => (t.shared.leave_utters t.session.id a ha).spares
  obtain ⟨tag, -, -, news, events, discreet⟩ := answered
  rw [performed]
  refine ⟨congrArg Prod.snd tag, ?_, news, ?_, discreet⟩
  · exact chatRoom_modest.call_shared depth .finish { gone with draft := {} }
  · exact events.trans (List.append_assoc _ _ _)

end Parley

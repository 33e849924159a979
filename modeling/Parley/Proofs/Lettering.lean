import Parley.Proofs.Conduct
import Parley.Proofs.Issuing

namespace Parley

open Chat Envelope

namespace Bytes

/-- These bytes are UTF-8. -/
def isText (b : Bytes) : Bool := (text? b).isSome

theorem isText_iff {b : Bytes} : isText b = true ↔ ∃ s, b = ofString s := by
  rw [isText, Option.isSome_iff_exists]
  exact exists_congr fun s => text?_eq_some_iff

theorem isText_ofString (s : String) : isText (ofString s) = true := isText_iff.mpr ⟨s, rfl⟩

theorem isText_append {b b' : Bytes} (h : isText b = true) (h' : isText b' = true) :
    isText (b ++ b') = true := by
  obtain ⟨s, rfl⟩ := isText_iff.mp h
  obtain ⟨s', rfl⟩ := isText_iff.mp h'
  exact isText_iff.mpr ⟨s ++ s', by simp [ofString]⟩

/-- Whatever each of these bytes spells, if that is always text, so are they together. -/
theorem isText_forall₂ {α : Type} {R : α → Bytes → Prop} (hR : ∀ a b, R a b → isText b = true)
    {as : List α} {bs : List Bytes} (h : List.Forall₂ R as bs) : isText bs.flatten = true := by
  induction h with
  | nil => exact isText_ofString ""
  | cons spelled _ ih => exact isText_append (hR _ _ spelled) ih

/-- A decimal digit is a character. -/
theorem isText_digit {d : UInt8} (h : 48 ≤ d.toNat ∧ d.toNat ≤ 57) : isText [d] = true := by
  have digits : ∀ n : Fin 10, isText [UInt8.ofNat (48 + n)] = true := by decide +kernel
  have known := digits ⟨d.toNat - 48, by omega⟩
  rwa [show 48 + (d.toNat - 48) = d.toNat by omega, UInt8.ofNat_toNat] at known

end Bytes

namespace Envelope

theorem Numeral.isText {digits : Bytes} {n : Nat} (h : Numeral digits n) :
    Bytes.isText digits = true := by
  have digit := h.digit
  clear h
  induction digits with
  | nil => exact Bytes.isText_ofString ""
  | cons d digits ih =>
    obtain ⟨first, rest⟩ := List.forall_mem_cons.mp digit
    exact Bytes.isText_append (b := [d]) (Bytes.isText_digit first) (ih rest)

theorem isText_colon {b : Bytes} (h : Bytes.isText b = true) : Bytes.isText (colon :: b) = true :=
  Bytes.isText_append (b := [colon]) (by decide +kernel) h

theorem Message.Spelled.isText {m : Message} {b : Bytes} (h : m.Spelled b) :
    Bytes.isText b = true := by
  obtain ⟨digits, numeral, -, -, rfl⟩ := h
  refine Bytes.isText_append (Bytes.isText_append (Bytes.isText_append ?_ ?_) ?_) ?_
  · exact Bytes.isText_ofString "message:"
  · exact numeral.isText
  · exact isText_colon (Bytes.isText_ofString m.nickname)
  · exact isText_colon (Bytes.isText_ofString m.payload)

/-- All of an envelope is text: its words and digits, the nicknames and the payloads. -/
theorem Spelled.isText {ms : List Message} {b : Bytes} (h : Spelled ms b) :
    Bytes.isText b = true := by
  obtain ⟨lead, records, ⟨digits, numeral, -, rfl⟩, spelled, rfl⟩ := h
  refine Bytes.isText_append (Bytes.isText_append (Bytes.isText_append ?_ ?_) ?_) ?_
  · exact Bytes.isText_ofString "inv:"
  · exact numeral.isText
  · exact isText_colon (Bytes.isText_ofString "")
  · exact Bytes.isText_forall₂ (fun _ _ => Message.Spelled.isText) spelled

/-- What is taken of a buffer, up to the first malformed envelope. -/
theorem isText_front (input : Bytes) :
    Bytes.isText (input.take (readAll input).offset) = true := by
  obtain ⟨envelopes, spelled, front⟩ := readAll_sound input
  rw [front]
  exact Bytes.isText_forall₂ (fun _ _ => Spelled.isText) spelled

theorem isText_encode {ms : List Message} {b : Bytes} (h : encode ms = .ok b) :
    Bytes.isText b = true :=
  (encode_spelled h).isText

end Envelope

mutual

/-- A command that queues nothing but text, neither at once nor when what it sets up is run. -/
def Command.isLettered : Command → Bool
  | .push data => Bytes.isText data
  | .run body => Action.allLettered body
  | _ => true

def Action.isLettered : Action → Bool
  | .push data | .queue data | .append data => Bytes.isText data
  | .launchTimerWith body => Action.allLettered body
  | .apply command | .post _ command => command.isLettered
  | _ => true

def Action.allLettered : List Action → Bool
  | [] => true
  | a :: actions => a.isLettered && Action.allLettered actions

end

theorem Action.allLettered_iff {actions : List Action} :
    allLettered actions = true ↔ ∀ a ∈ actions, a.isLettered = true := by
  induction actions with
  | nil => simp [allLettered]
  | cons a actions ih => simp [allLettered, ih]

/-- An event that writes text, if it writes, and has others do so. -/
def Event.isLettered : Event → Bool
  | .issued (.write _ data) => Bytes.isText data
  | .posted _ command => command.isLettered
  | _ => true

/-- The handler answers with actions that queue text only. -/
def Handler.Letters {σ : Type} (h : Handler σ) : Prop :=
  ∀ hook s shared, ∀ a ∈ (h.react hook s shared).2, a.isLettered = true

namespace Session

/-- What is queued is text, and what the watchdog waits for queues text. -/
structure Lettered (s : Session) : Prop where
  queue : Bytes.isText s.output = true
  waits : s.Waits fun body => Action.allLettered body = true

structure Step.Lettered (x : Step) : Prop where
  session : x.session.Lettered
  told : ∀ event ∈ x.events, event.isLettered = true

namespace Step

variable {s s' : Session} {x : Step}

theorem Tells.letters (h : x.Tells s) (hq : Bytes.isText s.output = true)
    (hw : x.session.Waits fun body => Action.allLettered body = true) : x.Lettered := by
  refine ⟨⟨?_, hw⟩, fun event he => ?_⟩
  · rcases h.output with same | empty
    · rwa [same]
    · rw [empty]
      exact Bytes.isText_ofString ""
  · obtain ⟨op, rfl⟩ := h.only event he
    cases op with
    | write kind data =>
      rw [(h.writes kind data he).2.1] at *
      exact hq
    | _ => rfl

theorem Lettered.quiet (hq : Bytes.isText x.session.output = true)
    (hw : x.session.Waits fun body => Action.allLettered body = true) (hn : x.events = []) :
    x.Lettered :=
  ⟨⟨hq, hw⟩, by simp [hn]⟩

end Step

theorem Lettered.polled {s : Session} (h : s.Lettered) (instant : Nat) :
    (s.poll instant).2.Lettered := by
  refine ⟨?_, polled_waits instant h.waits⟩
  unfold poll
  split <;> exact h.queue

theorem Lettered.asking {s : Session} (h : s.Lettered) (now : Nat) (c : Completion) :
    (s.asking now c).Lettered := by
  refine ⟨?_, asking_waits now c h.waits⟩
  have queue : (s.asking now c).output = s.output := by
    rcases c with _ | (_ | _) | _ | _ | _ | _ | _ | _ <;>
      simp [Session.asking, received, keepalive_eq, peerActive]
  rw [queue]
  exact h.queue

theorem Lettered.absorb {s : Session} (h : s.Lettered) (now : Nat) (c : Completion) :
    (s.absorb now c).Lettered := by
  have waits := absorb_waits now c h.waits
  cases hc : c.failure? with
  | none => exact (s.absorb_tells now hc).letters h.queue waits
  | some failure =>
    obtain ⟨op, error⟩ := failure
    rw [absorb_failure hc, fail_eq] at waits ⊢
    have stopped := ((s.received c).stopped_tells error).letters
      (by cases c <;> exact h.queue) waits
    refine ⟨stopped.session, fun event he => ?_⟩
    rcases List.mem_append.mp he with reported | told
    · unfold complaint at reported
      split at reported
      · cases reported
      · cases List.mem_singleton.mp reported
        rfl
    · exact stopped.told event told

theorem Lettered.resume {s : Session} (h : s.Lettered) (now : Nat) (c : Completion)
    (draft : Draft) : (s.resume now c draft).Lettered := by
  have waits := resume_waits now c draft h.waits
  rcases c with _ | _ | (_ | frame) | _ | _ | _ | _ | _
  case accepted => exact (advance_tells now true s).letters h.queue waits
  case handshaked =>
    exact (flush_tells draft.nextRead { s with response := none }).letters h.queue waits
  case read.ok =>
    simp only [Session.resume] at waits ⊢
    refine (advance_tells now _ _).letters ?_ waits
    split <;> exact h.queue
  all_goals exact .quiet h.queue waits rfl

end Session

/-- An action that queues text writes text. -/
theorem Action.effect_letters (now : Nat) {s : Session} {a : Action} (ha : a.isLettered = true)
    (hs : s.Lettered) : (a.effect now s).Lettered := by
  have waits : (a.effect now s).session.Waits fun body => Action.allLettered body = true :=
    a.effect_waits now (by rintro body rfl; exact ha) hs.waits
  have queued (data : Bytes) (hd : Bytes.isText data = true) :
      Bytes.isText (s.output ++ data) = true := Bytes.isText_append hs.queue hd
  cases a with
  | accept policy => exact (s.accept_tells now policy).letters hs.queue waits
  | handshake target => exact (s.handshake_tells now target).letters hs.queue waits
  | read => exact (s.read_tells now).letters hs.queue waits
  | write => exact (s.flush_tells true).letters hs.queue waits
  | push data => exact (Session.flush_tells true _).letters (queued data ha) waits
  | queue data => exact .quiet (queued data ha) waits rfl
  | clearQueue | transportLost => exact .quiet (Bytes.isText_ofString "") waits rfl
  | ping payload => exact (s.ping_tells now payload).letters hs.queue waits
  | pong payload => exact (s.pong_tells now payload).letters hs.queue waits
  | close reason => exact (s.close_tells now reason).letters hs.queue waits
  | forceClose => exact s.forceClose_tells.letters hs.queue waits
  | setFrameMode mode => cases mode <;> exact .quiet hs.queue waits rfl
  | keepalive =>
    refine .quiet ?_ waits rfl
    rw [effect, Session.stay_session, Session.keepalive_eq]
    exact hs.queue
  | fireTimer instant? => exact (s.fire_tells now _).letters hs.queue waits
  | apply command =>
    cases command with
    | push data => exact (Session.flush_tells true _).letters (queued data ha) waits
    | read => exact (s.read_tells now).letters hs.queue waits
    | ping payload => exact (s.ping_tells now payload).letters hs.queue waits
    | close reason => exact (s.close_tells now reason).letters hs.queue waits
    | run body => exact .quiet hs.queue waits rfl
  | complete c => exact hs.absorb now c
  | post receiver command =>
    refine ⟨⟨hs.queue, waits⟩, fun event he => ?_⟩
    obtain rfl := List.mem_singleton.mp he
    exact ha
  | warn | deliver | leaveMark | inspect =>
    refine ⟨⟨hs.queue, waits⟩, fun event he => ?_⟩
    obtain rfl := List.mem_singleton.mp he
    rfl
  | _ => exact .quiet hs.queue waits rfl

/-- An action that writes to the output of the hook that is running. -/
def Action.drafts : Action → Bool
  | .append _ | .clearOutput | .nextRead _ => true
  | _ => false

variable {σ : Type}

namespace Turn

theorem complete_draft (host : Host σ) (t : Turn σ) (c : Completion) :
    (t.complete host c).draft = t.draft := by
  rcases c with (e | _) | (e | response) | (e | frame) | (e | n) | (e | _) | (e | _) | (e | _) |
    ⟨kind, payload⟩
  case accepted.ok | handshaked.ok =>
    simp only [complete, accepted, handshaked]
    split
    · rfl
    · split <;> rfl
  case read.ok | control =>
    simp only [complete, readDone, controlReceived]
    split <;> rfl
  all_goals rfl

/-- No other action leaves a draft that it did not find: each hook and each body has its own. -/
theorem perform_draft (host : Host σ) (t : Turn σ) {a : Action} (ha : a.drafts = false) :
    (t.perform host a).draft = t.draft := by
  cases a with
  | complete c => exact complete_draft host _ c
  | fireTimer at? =>
    simp only [perform, carryOut, fireTimer]
    split
    · rfl
    · rfl
    · rfl
    · split <;> rfl
  | connected | finish =>
    simp only [perform, carryOut, connected, finish]
    split <;> rfl
  | apply c => cases c <;> rfl
  | append | clearOutput | nextRead => cases ha
  | _ => rfl

theorem perform_drafted (host : Host σ) {t : Turn σ} {a : Action} (ha : a.isLettered = true)
    (hd : Bytes.isText t.draft.output = true) :
    Bytes.isText (t.perform host a).draft.output = true := by
  by_cases drafts : a.drafts = true
  · cases a with
    | append data => exact Bytes.isText_append hd ha
    | clearOutput => exact Bytes.isText_ofString ""
    | nextRead follow => exact hd
    | _ => cases drafts
  · rw [perform_draft host t (Bool.eq_false_iff.mpr drafts)]
    exact hd

/-- All that the session has, and all that has happened to it, is text. -/
structure Lettered (t : Turn σ) : Prop where
  session : t.session.Lettered
  told : ∀ event ∈ t.events, event.isLettered = true

theorem Lettered.takes {t t' : Turn σ} {x : Session.Step} (h : t.Lettered) (hx : x.Lettered)
    (ht : t.Takes x t') : t'.Lettered := by
  obtain ⟨session, events, -⟩ := ht
  refine ⟨by rw [session]; exact hx.session, fun event he => ?_⟩
  rw [events] at he
  rcases List.mem_append.mp he with he | he
  · exact h.told event he
  · exact hx.told event he

theorem Lettered.step {t : Turn σ} {f : Session → Session.Step} (h : t.Lettered)
    (hf : (f t.session).Lettered) : (t.step f).Lettered :=
  h.takes hf ⟨rfl, rfl, rfl⟩

theorem Lettered.emit {t : Turn σ} {event : Event} (h : t.Lettered)
    (he : event.isLettered = true) : (t.emit event).Lettered := by
  refine ⟨h.session, fun event' hm => ?_⟩
  rcases List.mem_append.mp hm with hm | hm
  · exact h.told event' hm
  · obtain rfl := List.mem_singleton.mp hm
    exact he

end Turn

/-- Hooks, and bodies that queue text only, leave text where they found text. -/
structure Host.Letters (host : Host σ) : Prop where
  call (hook : Hook) (t : Turn σ) (h : t.Lettered) (hd : Bytes.isText t.draft.output = true) :
    (host.call hook t).Lettered ∧ Bytes.isText (host.call hook t).draft.output = true
  run (body : List Action) (t : Turn σ) (hb : Action.allLettered body = true) (h : t.Lettered)
    (hd : Bytes.isText t.draft.output = true) : (host.run body t).Lettered

namespace Turn.Lettered

variable {host : Host σ} (hh : host.Letters) {t : Turn σ} (h : t.Lettered)

include hh h

theorem called (hook : Hook) : (t.call host hook).Lettered := by
  obtain ⟨⟨session, told⟩, -⟩ :=
    hh.call hook { t with draft := {} } ⟨h.session, h.told⟩ (Bytes.isText_ofString "")
  exact ⟨session, told⟩

theorem ran {body : List Action} (hb : Action.allLettered body = true) :
    (t.run host body).Lettered := by
  obtain ⟨session, told⟩ := hh.run body { t with draft := {} } hb ⟨h.session, h.told⟩
    (Bytes.isText_ofString "")
  exact ⟨session, told⟩

/-- A hook that is lent text gives text back. -/
theorem consulted (hook : Bytes → Hook) : (t.consult host hook).1.Lettered := by
  obtain ⟨⟨⟨queue, waits⟩, told⟩, drafted⟩ := hh.call (hook t.session.output)
    { ((t.note (.lent t.session.output)).update (·.lend)) with
      draft := { output := t.session.output } }
    ⟨⟨Bytes.isText_ofString "", h.session.waits⟩, h.told⟩ h.session.queue
  exact ⟨⟨Bytes.isText_append drafted queue, waits⟩, told⟩

theorem completed (c : Completion) : (t.perform host (.complete c)).Lettered := by
  cases ha : t.session.asks c with
  | some hook =>
    obtain ⟨u, session, -, events, performed⟩ := t.perform_asks host ha
    have asking : u.Lettered :=
      ⟨by rw [session]; exact h.session.asking t.now c, by rw [events]; exact h.told⟩
    have asked := asking.consulted hh hook
    rw [performed]
    exact asked.step (asked.session.resume _ c _)
  | none =>
    by_cases hc : ∃ kind payload, c = .control kind payload
    · obtain ⟨kind, payload, rfl⟩ := hc
      have began : (t.note (.began t.now t.session (.complete (.control kind payload)))).Lettered :=
        ⟨h.session, h.told⟩
      simp only [perform, carryOut, complete, settle, controlReceived]
      change Turn.Lettered (if t.session.isClosed = true then _ else _)
      split
      · exact began
      · have heard := began.called hh
        exact (heard _).step (Action.effect_letters t.now (a := .write) rfl (heard _).session)
    · exact h.takes (h.session.absorb t.now c)
        (t.perform_absorb host ha fun kind payload he => hc ⟨kind, payload, he⟩)

theorem fired (at? : Option Nat) : (t.perform host (.fireTimer at?)).Lettered := by
  by_cases own : ∃ body, (t.session.poll (at?.getD t.now)).1 = some (.custom body)
  · obtain ⟨body, taken⟩ := own
    have polled : Turn.Lettered { t.note (.began t.now t.session (.fireTimer at?)) with
        session := (t.session.poll (at?.getD t.now)).2 } :=
      ⟨h.session.polled _, h.told⟩
    have performed : t.perform host (.fireTimer at?) =
        Turn.run host body { t.note (.began t.now t.session (.fireTimer at?)) with
          session := (t.session.poll (at?.getD t.now)).2 } := by
      simp only [perform, carryOut, fireTimer, note, taken]
    rw [performed]
    exact polled.ran hh (Session.poll_waits h.session.waits taken)
  · exact h.takes (Action.effect_letters t.now (a := .fireTimer at?) rfl h.session)
      (t.perform_fire host at? fun body taken => own ⟨body, taken⟩)

theorem performed {a : Action} (ha : a.isLettered = true) : (t.perform host a).Lettered := by
  have direct (hd : a.isDirect = true) : (t.perform host a).Lettered :=
    h.takes (Action.effect_letters t.now ha h.session) (t.perform_effect host hd)
  have began : (t.note (.began t.now t.session a)).Lettered := ⟨h.session, h.told⟩
  cases a with
  | complete c => exact h.completed hh c
  | fireTimer at? => exact h.fired hh at?
  | connected =>
    simp only [perform, carryOut, connected]
    split
    · exact began.called hh .connect
    · exact began
  | finish =>
    simp only [perform, carryOut, finish]
    split
    · exact began
    · have past : ((t.note (.began t.now t.session .finish)).update
          fun s => { s with ended := true }).Lettered :=
        ⟨⟨h.session.queue, h.session.waits⟩, h.told⟩
      exact past.called hh .finish
  | apply c =>
    cases c with
    | run body => exact began.ran hh ha
    | _ => exact direct rfl
  | _ => exact direct rfl

theorem performedAll {actions : List Action} (ha : ∀ a ∈ actions, a.isLettered = true)
    (hd : Bytes.isText t.draft.output = true) :
    (t.performAll host actions).Lettered ∧
      Bytes.isText (t.performAll host actions).draft.output = true := by
  induction actions generalizing t with
  | nil => exact ⟨h, hd⟩
  | cons a actions ih =>
    obtain ⟨first, rest⟩ := List.forall_mem_cons.mp ha
    exact ih (h.performed hh first) rest (perform_drafted host first hd)

end Turn.Lettered

/-- A handler that queues text only writes text only, at any depth. -/
theorem Handler.Letters.host {h : Handler σ} (hl : h.Letters) (depth : Nat) :
    (h.host depth).Letters := by
  induction depth with
  | zero => exact ⟨fun _ t ht hd => ⟨ht, hd⟩, fun _ t _ ht _ => ht⟩
  | succ depth ih =>
    refine ⟨fun hook t ht hd => ?_, fun body t hb ht hd => ?_⟩
    · have entered : (Turn.emit (.entered hook)
          { t.note (.called t.session hook) with
            shared := (h.react hook t.session t.shared).1 }).Lettered :=
        Turn.Lettered.emit ⟨ht.session, ht.told⟩ rfl
      exact entered.performedAll ih (hl hook t.session t.shared) hd
    · exact (ht.performedAll ih (Action.allLettered_iff.mp hb) hd).1

namespace Chat.Room

theorem postOthers_letters (room : Room) (sender : SessionId) {data : Bytes}
    (hd : Bytes.isText data = true) : ∀ a ∈ room.postOthers sender data, a.isLettered = true := by
  intro a ha
  obtain ⟨m, -, rfl⟩ := List.mem_map.mp ha
  exact hd

theorem join_letters (room : Room) (session : Session) (name : String) :
    ∀ a ∈ (room.join session name).2, a.isLettered = true := by
  unfold join
  intro a ha
  split at ha
  · cases ha
  split at ha
  · obtain rfl := List.mem_singleton.mp ha
    exact Bytes.isText_ofString _
  split at ha
  · obtain rfl := List.mem_singleton.mp ha
    rfl
  rename_i notice written
  split at ha
  · cases ha
  simp only [List.mem_cons] at ha
  rcases ha with rfl | rfl | ha
  · exact Bytes.isText_append (Bytes.isText_ofString _) (Bytes.isText_ofString _)
  · split
    · rename_i past hp
      exact isText_encode hp
    · rfl
  · exact room.postOthers_letters session.id (isText_encode written) a ha

theorem leave_letters (room : Room) (id : SessionId) :
    ∀ a ∈ (room.leave id).2, a.isLettered = true := by
  unfold leave
  intro a ha
  split at ha
  · cases ha
  · dsimp only at ha
    split at ha
    · rename_i data written
      exact postOthers_letters _ id (isText_encode written) a ha
    · obtain rfl := List.mem_singleton.mp ha
      rfl

/-- What a member says goes on as far as it was read, and so far it is text. -/
theorem hear_letters (room : Room) (id : SessionId) (input : Bytes) :
    ∀ a ∈ (room.hear id input).2, a.isLettered = true := by
  unfold hear
  intro a ha
  have warned : ∀ e : List ParseError,
      a ∈ e.map (fun e => .warn (.invalidChatMessage e)) → a.isLettered = true := by
    intro e he
    obtain ⟨e, -, rfl⟩ := List.mem_map.mp he
    rfl
  dsimp only at ha
  split at ha
  · rcases List.mem_append.mp ha with ha | ha
    · exact warned _ ha
    · obtain rfl := List.mem_singleton.mp ha
      rfl
  · rcases List.mem_append.mp ha with ha | ha
    · exact warned _ ha
    · rcases List.mem_cons.mp ha with rfl | ha
      · exact isText_front input
      · exact room.postOthers_letters id (isText_front input) a ha

end Chat.Room

/-- Whatever it is sent, a chat room queues text only. -/
theorem Handler.chatRoom_letters : chatRoom.Letters := by
  intro hook session room a ha
  cases hook with
  | message input output =>
    simp only [chatRoom, Room.receive] at ha
    split at ha
    · exact room.join_letters session _ a ha
    · exact room.hear_letters session.id input a ha
  | close | finish => exact room.leave_letters session.id a ha
  | accept =>
    obtain rfl := List.mem_singleton.mp ha
    exact Bytes.isText_ofString _
  | connect | pong =>
    obtain rfl := List.mem_singleton.mp ha
    rfl
  | handshake | ping => cases ha

end Parley

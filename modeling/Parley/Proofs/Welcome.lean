import Parley.Proofs.Utterance

namespace Parley

open Chat (appended decoded)

variable {σ : Type}

/-- The messages that a client hands to its user, and the warnings between them. -/
def tidings (events : List Event) : List (Except Warning Envelope.Message) :=
  events.filterMap fun
    | .delivered (.message m) => some (.ok m)
    | .warned w => some (.error w)
    | _ => none

theorem tidings_append (events events' : List Event) :
    tidings (events ++ events') = tidings events ++ tidings events' :=
  List.filterMap_append

/-- Going on brings no tidings. -/
theorem Session.advance_silent (now : Nat) (follow : Bool) (s : Session) :
    tidings (s.advance now follow).events = [] := by
  unfold advance flush read
  split
  · rfl
  · split
    · split <;> rfl
    · split
      · split <;> rfl
      · rfl

namespace Chat

/-- The action that hands a message on. -/
def handOver (m : Envelope.Message) : Action := .deliver (.message m)

/-- What is read without an error is handed on message by message. -/
theorem deliveries_read {input : Bytes} (h : (Envelope.readAll input).error = none) :
    deliveries input = (decoded input).map handOver := by
  have sound : ∀ item ∈ Envelope.Walk.all input, ∃ messages, item.1 = .ok messages := by
    rintro ⟨item, w⟩ hm
    have fine := List.findSome?_eq_none_iff.mp h _ hm
    cases item with
    | ok messages => exact ⟨messages, rfl⟩
    | error e => cases fine
  unfold deliveries decoded Envelope.readAll
  dsimp only
  generalize Envelope.Walk.all input = items at sound
  induction items with
  | nil => rfl
  | cons item items ih =>
    obtain ⟨item, w⟩ := item
    obtain ⟨messages, rfl⟩ := sound _ List.mem_cons_self
    have rest := ih fun item hm => sound item (List.mem_cons_of_mem _ hm)
    rw [List.flatMap_cons, rest]
    simp [Except.toOption, handOver]

/-- Buffers that are read in full are handed on one behind the other. -/
theorem deliveries_flatten {buffers : List Bytes}
    (h : ∀ b ∈ buffers, (Envelope.readAll b).offset = b.length) :
    deliveries buffers.flatten = (buffers.flatMap decoded).map handOver := by
  have read := Envelope.readAll_flatten h
  have messages : decoded buffers.flatten = buffers.flatMap decoded := by
    rw [decoded, read, List.flatMap_def, List.flatten_flatten, List.map_map, List.flatMap_def]
    rfl
  rw [deliveries_read (by rw [read]), messages]

theorem greeting_spoken (nickname : String) (rest : Bytes) :
    spoken nickname (greeting nickname ++ rest) = rest := by
  simp [spoken, Bytes.after?]

theorem greeting_ne_nil (nickname : String) (rest : Bytes) : greeting nickname ++ rest ≠ [] :=
  List.append_ne_nil_of_left_ne_nil (List.append_ne_nil_of_left_ne_nil (by decide +kernel) _) _

/-- No greeting is taken for a request. -/
theorem greeting_ne_request (nickname : String) (rest : Bytes) :
    greeting nickname ++ rest ≠ nameRequest := by
  intro same
  have first := congrArg List.head? same
  have lead : greetingLead.head? = some 72 := by decide +kernel
  have request : nameRequest.head? = some 87 := by decide +kernel
  rw [greeting, List.append_assoc, List.head?_append, lead, request] at first
  cases first

end Chat

theorem Turn.performAll_handOver (host : Host σ) (messages : List Envelope.Message) (t : Turn σ) :
    (t.performAll host (messages.map Chat.handOver)).events =
      t.events ++ messages.map fun m => .delivered (.message m) := by
  induction messages generalizing t with
  | nil => exact (List.append_nil _).symm
  | cons m messages ih =>
    rw [List.map_cons, List.map_cons, List.append_cons]
    exact ih _

/-- A client that is not closed hands on all the messages of a frame that is not a request. -/
theorem Handler.client_reads (nickname : String) (depth : Nat) {u : Turn σ} {frame : Frame}
    {messages : List Envelope.Message} (alive : u.session.isClosed = false)
    (hd : frame.data ≠ Chat.nameRequest)
    (hm : Chat.deliveries (Chat.spoken nickname frame.data) = messages.map Chat.handOver) :
    tidings (u.perform ((chatClient nickname).host (depth + 1))
      (.complete (.read (.ok frame)))).events = tidings u.events ++ messages.map .ok := by
  obtain ⟨v, -, -, he, performed⟩ :=
    Turn.perform_asks ((chatClient nickname).host (depth + 1)) u (Session.asks_read alive frame)
  -- The hook is entered and hands the messages on.
  have told : (v.consult ((chatClient nickname).host (depth + 1)) (.message frame.data)).1.events =
      v.events ++ .entered (.message frame.data v.session.output) ::
        messages.map fun m => .delivered (.message m) := by
    rw [consult_eq rfl]
    change (Turn.performAll _ (if frame.data = Chat.nameRequest then _ else _) _).events = _
    rw [if_neg hd, hm, Turn.performAll_handOver]
    simp [Turn.emit, Turn.note]
  have handed (hook : Hook) : tidings (.entered hook ::
      messages.map fun m => .delivered (.message m)) = messages.map .ok := by
    simp [tidings, List.filterMap_map]
  have resumed (now : Nat) (draft : Draft) (s : Session) :
      tidings (s.resume now (.read (.ok frame)) draft).events = [] :=
    Session.advance_silent now _ _
  rw [performed, Turn.step, tidings_append, told, he, tidings_append, handed, resumed,
    List.append_nil]

namespace Chat.Room

/-- The actions that the room's service answers with. -/
inductive Utters : Action → Prop
  | append (data : Bytes) : Utters (.append data)
  | warn (warning : Warning) : Utters (.warn warning)
  | read : Utters .read
  | push (receiver : SessionId) (data : Bytes) : Utters (.post receiver (.push data))
  | handshake (target : String) : Utters (.handshake target)
  | keepalive : Utters .keepalive

theorem postOthers_utters (room : Room) (sender : SessionId) (data : Bytes) :
    ∀ a ∈ room.postOthers sender data, Utters a := by
  intro a ha
  obtain ⟨m, -, rfl⟩ := List.mem_map.mp ha
  exact .push m.id data

theorem join_utters (room : Room) (session : Session) (name : String) :
    ∀ a ∈ (room.join session name).2, Utters a := by
  unfold join
  intro a ha
  split at ha
  · cases ha
  · split at ha
    · obtain rfl := List.mem_singleton.mp ha
      exact .append _
    · split at ha
      · obtain rfl := List.mem_singleton.mp ha
        exact .warn _
      · split at ha
        · cases ha
        · rcases List.mem_cons.mp ha with rfl | ha
          · exact .append _
          · rcases List.mem_cons.mp ha with rfl | ha
            · split
              · exact .append _
              · exact .warn _
            · exact postOthers_utters room _ _ a ha

theorem leave_utters (room : Room) (id : SessionId) :
    ∀ a ∈ (room.leave id).2, Utters a := by
  unfold leave
  intro a ha
  split at ha
  · cases ha
  · dsimp only at ha
    split at ha
    · exact postOthers_utters _ _ _ a ha
    · obtain rfl := List.mem_singleton.mp ha
      exact .warn _

theorem hear_utters (room : Room) (id : SessionId) (input : Bytes) :
    ∀ a ∈ (room.hear id input).2, Utters a := by
  unfold hear
  intro a ha
  have warned : ∀ e : List Envelope.ParseError,
      a ∈ e.map (fun e => .warn (.invalidChatMessage e)) → Utters a := by
    intro e he
    obtain ⟨e, -, rfl⟩ := List.mem_map.mp he
    exact .warn _
  dsimp only at ha
  split at ha
  · rcases List.mem_append.mp ha with ha | ha
    · exact warned _ ha
    · obtain rfl := List.mem_singleton.mp ha
      exact .read
  · rcases List.mem_append.mp ha with ha | ha
    · exact warned _ ha
    · rcases List.mem_cons.mp ha with rfl | ha
      · exact .append _
      · exact postOthers_utters room id _ a ha

theorem answer_utters (room : Room) (c : Call) : ∀ a ∈ (room.answer c).2, Utters a := by
  intro a ha
  obtain ⟨session, hook⟩ := c
  cases hook with
  | message input output =>
    simp only [answer, Handler.chatRoom, receive] at ha
    split at ha
    · exact room.join_utters session _ a ha
    · exact room.hear_utters session.id input a ha
  | close | finish => exact room.leave_utters session.id a ha
  | accept =>
    obtain rfl := List.mem_singleton.mp ha
    exact .append _
  | connect =>
    obtain rfl := List.mem_singleton.mp ha
    exact .handshake _
  | pong =>
    obtain rfl := List.mem_singleton.mp ha
    exact .keepalive
  | handshake | ping => cases ha

/-- A session that can be posted to and is not a member yet introduces itself by a fit name. -/
structure Joins (room : Room) (c : Call) (name : String) : Prop where
  said : ∃ input output, c.hook = .message input output ∧ introduced? input = some name
  reachable : c.session.reachable = true
  valid : (joinNotice name).validate = .ok ()
  new : room.hasMember c.session.id = false

namespace Joins

variable {room : Room} {c : Call} {name : String}

theorem answer_eq (h : room.Joins c name) : ∃ notice, room.answer c =
    (⟨room.limit, room.members ++ [⟨c.session.id, name⟩],
        recent room.limit (room.history ++ [joinNotice name])⟩,
      .append (greeting name) :: recalled (recent room.limit (room.history ++ [joinNotice name])) ::
        room.postOthers c.session.id notice) := by
  obtain ⟨⟨input, output, hook, said⟩, reachable, valid, new⟩ := h
  obtain ⟨notice, written⟩ := Envelope.encode_one valid
  have joins : room.answer c = room.join c.session name := by
    simp [answer, Handler.chatRoom, receive, hook, said]
  refine ⟨notice, ?_⟩
  rw [joins, join]
  simp only [reachable, Bool.not_true, Bool.false_eq_true, if_false, valid, Except.toBool, written,
    new, record]
  rfl

theorem history (h : room.Joins c name) :
    (room.answer c).1.history = recent room.limit (room.history ++ [joinNotice name]) := by
  obtain ⟨notice, answer⟩ := h.answer_eq
  rw [answer]

theorem appended_eq (h : room.Joins c name) {past : Bytes}
    (hp : Envelope.encode (room.answer c).1.history = .ok past) :
    appended (room.answer c).2 = greeting name ++ past := by
  obtain ⟨notice, answer⟩ := h.answer_eq
  rw [answer] at hp ⊢
  have no_more := appended_postOthers room c.session.id notice
  simp only [recalled, hp]
  simp only [appended, List.flatMap_cons] at no_more ⊢
  rw [no_more, List.append_nil]

theorem written (h : room.Joins c name)
    (valid : ∀ m ∈ (room.answer c).1.history, m.validate = .ok ())
    (short : (room.answer c).1.history.length < 2 ^ 32) :
    ∃ past, Envelope.encode (room.answer c).1.history = .ok past := by
  have size : Envelope.maxLength = 2 ^ 32 - 1 := rfl
  have some_message : (room.answer c).1.history ≠ [] := by
    rw [h.history]
    exact recent_ne_nil room.limit (by simp)
  exact ⟨_, Envelope.encode_ok (List.length_pos_iff.mpr some_message) (by omega) valid⟩

end Joins

end Chat.Room

theorem Handler.chatRoom_modest : Handler.chatRoom.Modest := by
  intro hook s room a ha
  cases room.answer_utters ⟨s, hook⟩ a ha <;> rfl

theorem Chat.Room.after_limit (room : Room) (calls : List Chat.Call) :
    (room.after calls).limit = room.limit := by
  induction calls generalizing room with
  | nil => rfl
  | cons c calls ih => rw [after_cons, ih, answer_limit]

/-- All that a room remembers can be written, whoever said it. -/
theorem Chat.Room.history_valid (limit : Nat) (calls : List Chat.Call) :
    ∀ m ∈ (after { limit } calls).history, m.validate = .ok () := by
  intro m hm
  rw [after_history (.empty limit)] at hm
  obtain ⟨e, he, rfl⟩ := List.mem_map.mp (recent_subset limit _ hm)
  exact log_valid (.empty limit) calls e he

namespace Session

/-- An established session with something queued writes it, or waits for the write in flight. -/
theorem advance_queued (now : Nat) (follow : Bool) {s : Session} {out : Bytes} {kind : FrameKind}
    {mode : FrameMode} {writing : Bool} (hs : s.outbox = (out, false, writing, true, kind, mode))
    (ho : out ≠ []) :
    (writing = false → dispatched (s.advance now follow).events = [⟨kind, out⟩]) ∧
      (writing = true → s.advance now follow = s.stay) := by
  simp only [outbox, Prod.mk.injEq] at hs
  obtain ⟨rfl, hi, hw, hc, rfl, -⟩ := hs
  have open_ := open_of_canSend hc
  have filled : s.output.isEmpty = false := List.isEmpty_eq_false_iff.mpr ho
  constructor
  · rintro rfl
    simp [advance, flush, open_, filled, hi, hw, hc, dispatched, Event.frame?]
  · rintro rfl
    simp [advance, flush, open_, filled, hi, hw, hc]

end Session

theorem Turn.performAll_shared (host : Host σ) (actions : List Action)
    (ha : ∀ a ∈ actions, a.isModest = true) (t : Turn σ) :
    (t.performAll host actions).shared = t.shared := by
  induction actions generalizing t with
  | nil => rfl
  | cons a actions ih =>
    have first : (t.perform host a).shared = t.shared := by
      have modest := ha a List.mem_cons_self
      cases a with
      | append | nextRead | handshake | read | keepalive => rfl
      | post | warn | deliver | leaveMark | inspect => rfl
      | _ => cases modest
    exact (ih (fun a' ha' => ha a' (List.mem_cons_of_mem a ha')) (t.perform host a)).trans first

/-- A message that is read while a session is established is answered with what its hook appends. -/
theorem Handler.Modest.read_gives {h : Handler σ} (hm : h.Modest) (depth : Nat) {t : Turn σ}
    (frame : Frame) (can : t.session.phase.canSend = true) :
    ∃ (r : Session) (now : Nat) (follow : Bool),
      r.outbox = (t.session.output ++ h.gift t (.complete (.read (.ok frame))), false,
        t.session.writing, true, t.session.tone (.complete (.read (.ok frame))),
        t.session.frameMode) ∧
      (t.perform (h.host (depth + 1)) (.complete (.read (.ok frame)))).session =
        (r.advance now follow).session ∧
      dispatched (t.perform (h.host (depth + 1)) (.complete (.read (.ok frame)))).events =
        dispatched t.events ++ dispatched (r.advance now follow).events := by
  have open_ := Session.open_of_canSend can
  have asks := Session.asks_read open_ frame
  obtain ⟨u, hs, hsh, he, performed⟩ := Turn.perform_asks (h.host (depth + 1)) t asks
  obtain ⟨outbox, sent, -⟩ := hm.consult_drafts depth (.message frame.data) u
  have asked := Session.asking_outbox t.now asks
  simp only [Session.outbox, Prod.mk.injEq] at asked
  obtain ⟨ho, -, hw, -, hk, hm⟩ := asked
  have stays : (t.session.asking t.now (.read (.ok frame))).phase = t.session.phase := rfl
  rw [hs, ho, hw, hk, hm, hsh, stays, can] at outbox
  have gift : h.gift t (.complete (.read (.ok frame))) = appended
      (h.react (.message frame.data t.session.output)
        (t.session.asking t.now (.read (.ok frame))).lend t.shared).2 := by
    simp only [gift, asks]
  rw [performed]
  generalize (u.consult (h.host (depth + 1)) (.message frame.data)).2 = draft
  generalize (u.consult (h.host (depth + 1)) (.message frame.data)).1 = v at outbox sent
  simp only [Session.outbox, Prod.mk.injEq] at outbox
  obtain ⟨output, inHook, writing, phase, outgoing, frameMode⟩ := outbox
  -- The reply takes its type from the frame in the automatic mode.
  have tuned : (if v.session.frameMode = .auto then { v.session with outgoing := frame.kind }
      else v.session) =
      { v.session with outgoing := t.session.tone (.complete (.read (.ok frame))) } := by
    unfold Session.tone
    dsimp only
    by_cases auto : t.session.frameMode = .auto
    · rw [if_pos (frameMode.trans auto), if_pos ⟨open_, auto⟩]
    · rw [if_neg fun both => auto (frameMode.symm.trans both), if_neg fun both => auto both.2,
        ← outgoing]
  obtain ⟨follow, resumed⟩ : ∃ follow, v.session.resume v.now (.read (.ok frame)) draft =
      Session.advance v.now follow (if v.session.frameMode = .auto then
        { v.session with outgoing := frame.kind } else v.session) := ⟨_, rfl⟩
  rw [tuned] at resumed
  refine ⟨{ v.session with outgoing := t.session.tone (.complete (.read (.ok frame))) }, v.now,
    follow, ?_, ?_, ?_⟩
  · simp only [Session.outbox, output, inHook, writing, phase, frameMode, gift]
  · rw [← resumed]
    rfl
  · rw [← resumed, ← he, ← sent, ← dispatched_append]
    rfl

namespace Turn

/-- What is pushed while a write is in flight waits for its end. -/
theorem push_waits (host : Host σ) {t : Turn σ} {m : Moment σ} {out data : Bytes} {can : Bool}
    {kind : FrameKind} {mode : FrameMode} (hm : m.action = .apply (.push data))
    (ht : t.session.outbox = (out, false, true, can, kind, mode)) :
    (t.meet host m).session.outbox = (out ++ data, false, true, can, kind, mode) ∧
      dispatched (t.meet host m).events = dispatched t.events := by
  obtain ⟨session, events, -⟩ := (t.facing m).perform_effect host (a := m.action) (by rw [hm]; rfl)
  simp only [Session.outbox, Prod.mk.injEq] at ht
  obtain ⟨rfl, hi, hw, rfl, rfl, rfl⟩ := ht
  have waits : m.action.effect (t.facing m).now (t.facing m).session =
      Session.stay { (t.facing m).session with output := t.session.output ++ data } := by
    rw [hm]
    simp [Action.effect, Command.effect, Session.push, Session.write, Session.flush, facing, hw]
  rw [meet_eq, session, events, waits]
  exact ⟨by simp [Session.outbox, facing, hi, hw], congrArg dispatched (List.append_nil _)⟩

theorem pushes_wait (host : Host σ) {later : List (Moment σ)}
    (hl : ∀ m ∈ later, ∃ data, m.action = .apply (.push data)) {t : Turn σ} {out : Bytes}
    {can : Bool} {kind : FrameKind} {mode : FrameMode}
    (ht : t.session.outbox = (out, false, true, can, kind, mode)) :
    (t.follow host later).session.outbox =
        (out ++ later.flatMap (·.action.pushes), false, true, can, kind, mode) ∧
      dispatched (t.follow host later).events = dispatched t.events := by
  induction later generalizing t out with
  | nil => exact ⟨by rw [List.flatMap_nil, List.append_nil]; exact ht, rfl⟩
  | cons m later ih =>
    obtain ⟨data, hm⟩ := hl m List.mem_cons_self
    obtain ⟨waits, unsent⟩ := push_waits host hm ht
    obtain ⟨outbox, sent⟩ := ih (fun m' hm' => hl m' (List.mem_cons_of_mem m hm')) waits
    have pushed : m.action.pushes = data := by rw [hm]; rfl
    refine ⟨?_, sent.trans unsent⟩
    rw [List.flatMap_cons, pushed, ← List.append_assoc]
    exact outbox

/-- When the write in flight ends, all that waits goes out in one frame. -/
theorem written_sends (host : Host σ) {t : Turn σ} {m : Moment σ} {n : Nat} {out : Bytes}
    {kind : FrameKind} {mode : FrameMode} (hm : m.action = .complete (.written (.ok n)))
    (ht : t.session.outbox = (out, false, true, true, kind, mode)) (ho : out ≠ []) :
    dispatched (t.meet host m).events = dispatched t.events ++ [⟨kind, out⟩] := by
  obtain ⟨-, events, -⟩ := (t.facing m).perform_absorb host (c := .written (.ok n)) rfl nofun
  have free : ((t.facing m).session.received (.written (.ok n))).outbox =
      (out, false, false, true, kind, mode) := by
    simp only [Session.outbox, Prod.mk.injEq] at ht ⊢
    exact ⟨ht.1, ht.2.1, rfl, ht.2.2.2⟩
  have goes := (Session.advance_queued m.now t.session.writeNextRead free ho).1 rfl
  rw [meet_eq, hm, events, dispatched_append]
  exact congrArg _ goes

end Turn

/-- What the hook appends to an empty queue goes out in a frame of its own or, if a write is in
flight, in one with what is pushed until that write ends. -/
theorem Handler.Modest.read_departs {h : Handler σ} (hm : h.Modest) (depth : Nat) {t : Turn σ}
    (frame : Frame) (can : t.session.phase.canSend = true) (empty : t.session.output = [])
    (some_gift : h.gift t (.complete (.read (.ok frame))) ≠ []) :
    (t.session.writing = false →
      dispatched (t.perform (h.host (depth + 1)) (.complete (.read (.ok frame)))).events =
        dispatched t.events ++ [⟨t.session.tone (.complete (.read (.ok frame))),
          h.gift t (.complete (.read (.ok frame)))⟩]) ∧
      (t.session.writing = true → ∀ later : List (Moment σ),
        (∀ m ∈ later, ∃ data, m.action = .apply (.push data)) →
        ∀ (m : Moment σ) (n : Nat), m.action = .complete (.written (.ok n)) →
          dispatched (((t.perform (h.host (depth + 1)) (.complete (.read (.ok frame)))).follow
            (h.host (depth + 1)) later).meet (h.host (depth + 1)) m).events =
              dispatched t.events ++ [⟨t.session.tone (.complete (.read (.ok frame))),
                h.gift t (.complete (.read (.ok frame))) ++ later.flatMap (·.action.pushes)⟩]) := by
  obtain ⟨r, now, follow, outbox, session, sent⟩ := hm.read_gives depth frame can
  rw [empty, List.nil_append] at outbox
  obtain ⟨at_once, waits⟩ := Session.advance_queued now follow outbox some_gift
  constructor
  · intro free
    rw [sent, at_once free]
  · intro busy later hl m n answered
    rw [waits busy] at session sent
    have queued := (congrArg Session.outbox session).trans outbox
    rw [busy] at queued
    obtain ⟨behind, unsent⟩ := Turn.pushes_wait (h.host (depth + 1)) hl queued
    rw [Turn.written_sends _ answered behind (List.append_ne_nil_of_left_ne_nil some_gift _),
      unsent, sent]
    simp [Session.stay, dispatched]

/-- What a hook keeps is kept when its actions have been carried out. -/
theorem Handler.Modest.read_keeps {h : Handler σ} (hm : h.Modest) (depth : Nat) {t : Turn σ}
    (frame : Frame) (can : t.session.phase.canSend = true) :
    (t.perform (h.host (depth + 1)) (.complete (.read (.ok frame)))).shared =
      (h.react (.message frame.data t.session.output)
        (t.session.asking t.now (.read (.ok frame))).lend t.shared).1 := by
  have asks := Session.asks_read (Session.open_of_canSend can) frame
  obtain ⟨u, hs, hsh, -, performed⟩ := Turn.perform_asks (h.host (depth + 1)) t asks
  have asked := Session.asking_outbox t.now asks
  simp only [Session.outbox, Prod.mk.injEq] at asked
  rw [← hs] at asked ⊢
  rw [← hsh, ← asked.1, performed]
  exact Turn.performAll_shared _ _ (hm _ _ _) _

/-- The call of the room's service that a frame leads to. -/
def Turn.said (t : Turn Chat.Room) (frame : Frame) : Chat.Call :=
  ⟨(t.session.asking t.now (.read (.ok frame))).lend, .message frame.data t.session.output⟩

/-- A client of this name that is not closed takes these messages out of such a frame, in this order
and without a warning. -/
def Chat.Tells (nickname : String) (data : Bytes) (messages : List Envelope.Message) : Prop :=
  ∀ (σ : Type) (depth : Nat) (u : Turn σ) (kind : FrameKind), u.session.isClosed = false →
    tidings (u.perform ((Handler.chatClient nickname).host (depth + 1))
      (.complete (.read (.ok ⟨kind, data⟩)))).events = tidings u.events ++ messages.map .ok

/-- The greeting, the history and what is posted behind them are told apart. -/
theorem Chat.greeting_tells {name : String} {history : List Envelope.Message} {past : Bytes}
    (hp : Envelope.encode history = .ok past) {later : List Bytes}
    (hl : ∀ b ∈ later, (Envelope.readAll b).offset = b.length) :
    Tells name (greeting name ++ past ++ later.flatten) (history ++ later.flatMap decoded) := by
  intro σ depth u kind alive
  have read := Envelope.readAll_encode hp
  have whole : ∀ b ∈ past :: later, (Envelope.readAll b).offset = b.length := by
    intro b hb
    rcases List.mem_cons.mp hb with rfl | hb
    · rw [read]
    · exact hl b hb
  have remembered : decoded past = history := by simp [decoded, read]
  have told := deliveries_flatten whole
  rw [List.flatten_cons, List.flatMap_cons, remembered] at told
  refine Handler.client_reads name depth alive ?_ ?_
  · rw [List.append_assoc]
    exact greeting_ne_request name _
  · rw [List.append_assoc, greeting_spoken]
    exact told

/-- A newcomer is greeted with all that the room remembers, the notice of its arrival included, in a
frame of their own or, if a write is in flight, in one with what is posted to it until that write
ends. Its client takes out of the frame the messages remembered and then those posted; what a room
posts is read in full. An envelope counts less than `2 ^ 32` messages, so no more are remembered. -/
theorem Handler.greeting_understood (limit : Nat) (calls : List Chat.Call) (depth : Nat)
    {t joined : Turn Chat.Room} {frame : Frame} {name : String}
    (ht : t.shared = .after { limit } calls) (can : t.session.phase.canSend = true)
    (empty : t.session.output = []) (joins : t.shared.Joins (t.said frame) name)
    (short : (Chat.Room.after { limit } (calls ++ [t.said frame])).history.length < 2 ^ 32)
    (reads : t.perform (chatRoom.host (depth + 1)) (.complete (.read (.ok frame))) = joined) :
    joined.shared = .after { limit } (calls ++ [t.said frame]) ∧
      joined.shared.history =
        Chat.Room.recent limit (t.shared.history ++ [Chat.joinNotice name]) ∧
      (∀ m ∈ joined.shared.history, m.validate = .ok ()) ∧
      ∃ kind past, Envelope.encode joined.shared.history = .ok past ∧
        (t.session.writing = false → dispatched joined.events =
          dispatched t.events ++ [⟨kind, Chat.greeting name ++ past⟩]) ∧
        (t.session.writing = true → ∀ later : List (Moment Chat.Room),
          (∀ m ∈ later, ∃ data, m.action = .apply (.push data)) →
          ∀ (m : Moment Chat.Room) (n : Nat), m.action = .complete (.written (.ok n)) →
            dispatched ((joined.follow (chatRoom.host (depth + 1)) later).meet
                (chatRoom.host (depth + 1)) m).events =
              dispatched t.events ++
                [⟨kind, Chat.greeting name ++ past ++ later.flatMap (·.action.pushes)⟩]) ∧
        ∀ later : List Bytes, (∀ b ∈ later, (Envelope.readAll b).offset = b.length) →
          Chat.Tells name (Chat.greeting name ++ past ++ later.flatten)
            (joined.shared.history ++ later.flatMap decoded) := by
  have shared : joined.shared = (t.shared.answer (t.said frame)).1 := by
    rw [← reads]
    exact chatRoom_modest.read_keeps depth frame can
  have after : Chat.Room.after { limit } (calls ++ [t.said frame]) =
      (t.shared.answer (t.said frame)).1 := by
    rw [Chat.Room.after_snoc, ht]
  have room_limit : t.shared.limit = limit := by
    rw [ht, Chat.Room.after_limit]
  have valid := Chat.Room.history_valid limit (calls ++ [t.said frame])
  rw [after] at short valid
  obtain ⟨past, written⟩ := joins.written valid short
  have gift : chatRoom.gift t (.complete (.read (.ok frame))) = Chat.greeting name ++ past := by
    have asks := Session.asks_read (Session.open_of_canSend can) frame
    simp only [Handler.gift, asks]
    exact joins.appended_eq written
  obtain ⟨at_once, behind⟩ := chatRoom_modest.read_departs depth frame can empty
    (by rw [gift]; exact Chat.greeting_ne_nil name past)
  rw [gift, reads] at at_once behind
  rw [after, shared, ← room_limit]
  exact ⟨rfl, joins.history, valid, _, past, written, at_once, behind,
    fun later whole => Chat.greeting_tells written whole⟩

/-- A room that remembers two messages, and one of its two has spoken. -/
def lobby : List Chat.Call :=
  [Chat.Room.speaks 0 "My name is Ann", Chat.Room.speaks 0 "inv:1:message:2:Ann:hi"]

/-- A session that has just come to that room. It is asked for its name, and a probe has made it read
before the question is out. -/
def doorstep : Turn Chat.Room :=
  let arrived := Handler.chatRoom.course 1 (.server 1 {}) (.after { limit := 2 } lobby)
    ([.accept {}, .complete (.accepted (.ok ())), .ping [], .complete (.pinged (.ok ()))].map
      fun action => { now := 0, shared := .after { limit := 2 } lobby, action })
  { arrived with session := { arrived.session with reachable := true } }

def bobsName : Frame := ⟨.text, Chat.introduction "Bob"⟩

/-- Bob has given his name. -/
def inside : Turn Chat.Room :=
  doorstep.perform (Handler.chatRoom.host 1) (.complete (.read (.ok bobsName)))

/-- Ann says yo before the question for Bob's name is out, and then it is. -/
def yoBehind : List (Moment Chat.Room) :=
  [{ now := 0, shared := inside.shared, action := .apply (.push saidYo) }]

def questionOut : Moment Chat.Room :=
  { now := 0, shared := inside.shared, action := .complete (.written (.ok 18)) }

/-- Bob's client, once its upgrade is over. -/
def visitor : Turn Unit :=
  (Handler.chatClient "Bob").course 1 (.client 0 {}) ()
    ([.connected, .complete (.handshaked (.ok ⟨101, []⟩))].map .plain)

theorem doorstep_understood :
    doorstep.session.phase.canSend = true ∧ doorstep.session.output = [] ∧
      doorstep.shared.Joins (doorstep.said bobsName) "Bob" ∧
      (Chat.Room.after { limit := 2 } (lobby ++ [doorstep.said bobsName])).history.length < 2 ^ 32 ∧
      doorstep.session.writing = true ∧
      ∃ kind past,
        dispatched ((inside.follow (Handler.chatRoom.host 1) yoBehind).meet
            (Handler.chatRoom.host 1) questionOut).events =
          dispatched doorstep.events ++ [⟨kind, Chat.greeting "Bob" ++ past ++ saidYo⟩] ∧
        tidings (visitor.perform ((Handler.chatClient "Bob").host 1)
            (.complete (.read (.ok ⟨kind, Chat.greeting "Bob" ++ past ++ saidYo⟩)))).events =
          [.ok ⟨"hi", "Ann"⟩, .ok (Chat.joinNotice "Bob"), .ok ⟨"yo", "Ann"⟩] := by
  have can : doorstep.session.phase.canSend = true := by decide +kernel
  have empty : doorstep.session.output = [] := by decide +kernel
  have busy : doorstep.session.writing = true := by decide +kernel
  have joins : doorstep.shared.Joins (doorstep.said bobsName) "Bob" :=
    ⟨⟨_, _, rfl, by decide +kernel⟩, rfl, by decide +kernel, by decide +kernel⟩
  have remembered : (Chat.Room.after { limit := 2 } (lobby ++ [doorstep.said bobsName])).history =
      [⟨"hi", "Ann"⟩, Chat.joinNotice "Bob"] := by decide +kernel
  have short : (Chat.Room.after { limit := 2 }
      (lobby ++ [doorstep.said bobsName])).history.length < 2 ^ 32 := by
    rw [remembered]
    decide
  obtain ⟨after, -, -, kind, past, -, -, behind, told⟩ :=
    Handler.greeting_understood 2 lobby 0 rfl can empty joins short (show _ = inside from rfl)
  refine ⟨can, empty, joins, short, busy, kind, past, ?_, ?_⟩
  · exact behind busy yoBehind (by simp [yoBehind]) questionOut 18 rfl
  · have heard := told [saidYo] (by decide +kernel) Unit 0 visitor kind (by decide +kernel)
    have silent : tidings visitor.events = [] := by decide +kernel
    have posted : decoded saidYo = [⟨"yo", "Ann"⟩] := by decide +kernel
    rw [after, remembered, silent] at heard
    simpa [posted] using heard

end Parley

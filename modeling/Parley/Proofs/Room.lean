import Mathlib.Data.List.Infix
import Parley.Chat.Room
import Parley.Proofs.Canonical
import Parley.Proofs.Reading

namespace Parley.Chat

open Envelope

/-- A session calls a hook of the room's service. -/
structure Call where
  session : Session
  hook : Hook

/-- The data that actions push to a session. -/
def pushes (id : SessionId) (actions : List Action) : List Bytes :=
  actions.filterMap fun
    | .post receiver (.push data) => if receiver = id then some data else none
    | _ => none

/-- What actions put into the output of a hook. -/
def appended (actions : List Action) : Bytes :=
  actions.flatMap fun
    | .append data => data
    | _ => []

/-- The messages that a client takes out of what it was sent. -/
def decoded (data : Bytes) : List Message := (readAll data).batches.flatten

/-- A message of the log, and who said it. -/
structure Entry where
  author : SessionId
  message : Message
  deriving DecidableEq, Repr

namespace Room

/-- What the service does when a session calls it. -/
def answer (room : Room) (c : Call) : Room × List Action :=
  Handler.chatRoom.react c.hook c.session room

def after (room : Room) (calls : List Call) : Room :=
  calls.foldl (fun room c => (room.answer c).1) room

/-- All that is pushed to a session, call by call. -/
def posted (id : SessionId) : Room → List Call → List Bytes
  | _, [] => []
  | room, c :: calls => pushes id (room.answer c).2 ++ posted id (room.answer c).1 calls

/-- What a call records: all that it leaves in a room that forgets nothing and had recorded nothing
before. -/
def news (room : Room) (c : Call) : List Message :=
  (answer { room with limit := 0, history := [] } c).1.history

/-- All that a room ever recorded, whatever it has forgotten. -/
def log : Room → List Call → List Entry
  | _, [] => []
  | room, c :: calls => (room.news c).map (⟨c.session.id, ·⟩) ++ log (room.answer c).1 calls

theorem hasMember_iff {room : Room} {id : SessionId} :
    room.hasMember id = true ↔ ∃ m ∈ room.members, m.id = id := by
  simp [hasMember, member?, List.find?_isSome]

/-- Who leaves takes nobody along. -/
theorem hasMember_filter {limit : Nat} {members : List Member} {history : List Message}
    {id sender : SessionId} (h : id ≠ sender) :
    hasMember ⟨limit, members.filter (·.id ≠ sender), history⟩ id = true ↔
      hasMember ⟨limit, members, history⟩ id = true := by
  simp only [hasMember_iff, List.mem_filter, decide_eq_true_eq]
  constructor
  · rintro ⟨m, ⟨hm, -⟩, rfl⟩
    exact ⟨m, hm, rfl⟩
  · rintro ⟨m, hm, rfl⟩
    exact ⟨m, ⟨hm, h⟩, rfl⟩

theorem pushes_append (id : SessionId) (actions actions' : List Action) :
    pushes id (actions ++ actions') = pushes id actions ++ pushes id actions' :=
  List.filterMap_append

theorem pushes_posts (id : SessionId) (members : List Member) (data : Bytes) :
    pushes id (members.map fun m => .post m.id (.push data)) =
      List.replicate ((members.map (·.id)).count id) data := by
  induction members with
  | nil => rfl
  | cons m members ih =>
    simp only [pushes, List.map_cons, List.filterMap_cons, List.count_cons, beq_iff_eq] at ih ⊢
    split <;> simp_all [List.replicate_succ]

/-- What is posted to all others reaches each of them once. -/
theorem pushes_postOthers (room : Room) (h : (room.members.map (·.id)).Nodup)
    (id sender : SessionId) (data : Bytes) :
    pushes id (room.postOthers sender data) =
      if id ≠ sender ∧ room.hasMember id = true then [data] else [] := by
  have distinct : ((room.members.filter (·.id ≠ sender)).map (·.id)).Nodup :=
    h.sublist (List.filter_sublist.map _)
  have reached : id ∈ (room.members.filter (·.id ≠ sender)).map (·.id) ↔
      id ≠ sender ∧ room.hasMember id = true := by
    simp only [hasMember_iff, List.mem_map, List.mem_filter, decide_eq_true_eq]
    constructor
    · rintro ⟨m, ⟨hm, hs⟩, rfl⟩
      exact ⟨hs, m, hm, rfl⟩
    · rintro ⟨hs, m, hm, rfl⟩
      exact ⟨m, ⟨hm, hs⟩, rfl⟩
  rw [postOthers, pushes_posts, distinct.count]
  by_cases hr : id ≠ sender ∧ room.hasMember id = true
  · rw [if_pos (reached.mpr hr), if_pos hr, List.replicate_one]
  · rw [if_neg (mt reached.mp hr), if_neg hr, List.replicate_zero]

theorem appended_postOthers (room : Room) (sender : SessionId) (data : Bytes) :
    appended (room.postOthers sender data) = [] := by
  simp [appended, postOthers, List.flatMap_map]

/-- What a newcomer is told that the room remembers. -/
def recalled (history : List Message) : Action :=
  match encode history with
  | .ok past => .append past
  | .error e => .warn (.historyNotEncodable e)

/-- How those that stay are told who left. -/
def farewell (room : Room) (id : SessionId) (name : String) : List Action :=
  match encode [leaveNotice name] with
  | .ok data => room.postOthers id data
  | .error e => [.warn (.leaveNotEncodable e)]

/-- What a call does to a room, whatever its limit and its history. -/
inductive Deed (members : List Member) (c : Call) : Prop
  | idle (actions : List Action) (quiet : ∀ id, pushes id actions = [])
      (h : ∀ limit history, answer ⟨limit, members, history⟩ c =
        (⟨limit, members, history⟩, actions))
  | join (name : String) (notice : Bytes) (new : ∀ m ∈ members, m.id ≠ c.session.id)
      (valid : (joinNotice name).validate = .ok ())
      (written : encode [joinNotice name] = .ok notice)
      (h : ∀ limit history, answer ⟨limit, members, history⟩ c =
        (⟨limit, members ++ [⟨c.session.id, name⟩], recent limit (history ++ [joinNotice name])⟩,
          .append (greeting name) :: recalled (recent limit (history ++ [joinNotice name])) ::
            postOthers ⟨limit, members, history⟩ c.session.id notice))
  | leave (m : Member) (old : m ∈ members) (hm : m.id = c.session.id)
      (h : ∀ limit history, answer ⟨limit, members, history⟩ c =
        (⟨limit, members.filter (·.id ≠ c.session.id),
            recent limit (history ++ [leaveNotice m.nickname])⟩,
          farewell ⟨limit, members.filter (·.id ≠ c.session.id), history⟩ c.session.id
            m.nickname))
  | hear (input : Bytes) (warnings : List Action) (quiet : ∀ id, pushes id warnings = [])
      (h : ∀ limit history, answer ⟨limit, members, history⟩ c =
        (⟨limit, members, recent limit (history ++ (readAll input).batches.flatten)⟩,
          warnings ++ .append (input.take (readAll input).offset) ::
            postOthers ⟨limit, members, history⟩ c.session.id
              (input.take (readAll input).offset)))

theorem warnings_quiet (id : SessionId) (errors : List ParseError) :
    pushes id (errors.map fun e => .warn (.invalidChatMessage e)) = [] := by
  simp [pushes, List.filterMap_map]

theorem hear_deed (members : List Member) (session : Session) (input output : Bytes)
    (hi : introduced? input = none) : Deed members ⟨session, .message input output⟩ := by
  have heard (limit : Nat) (history : List Message) :
      answer ⟨limit, members, history⟩ ⟨session, .message input output⟩ =
        hear session.id input ⟨limit, members, history⟩ := by
    simp [answer, Handler.chatRoom, receive, hi]
  have quiet := fun id => warnings_quiet id (readAll input).error.toList
  by_cases he : (input.take (readAll input).offset).isEmpty = true
  · refine .idle (((readAll input).error.toList.map fun e => .warn (.invalidChatMessage e)) ++
      [.read]) (fun id => ?_) fun limit history => ?_
    · rw [pushes_append, quiet]
      rfl
    · rw [heard, hear]
      simp only [he, if_true]
  · refine .hear input _ quiet fun limit history => ?_
    rw [heard, hear]
    simp only [he, if_false, Bool.false_eq_true]
    rfl

theorem join_deed (members : List Member) (session : Session) (input output : Bytes) {name : String}
    (hi : introduced? input = some name) : Deed members ⟨session, .message input output⟩ := by
  have joins (limit : Nat) (history : List Message) :
      answer ⟨limit, members, history⟩ ⟨session, .message input output⟩ =
        join session name ⟨limit, members, history⟩ := by
    simp [answer, Handler.chatRoom, receive, hi]
  cases hr : session.reachable with
  | false => exact .idle [] (fun _ => rfl) fun limit history => by simp [joins, join, hr]
  | true =>
    cases hv : (joinNotice name).validate with
    | error e =>
      exact .idle [.append nameRequest] (fun _ => rfl) fun limit history => by
        simp [joins, join, hr, hv, Except.toBool]
    | ok u =>
      cases he : encode [joinNotice name] with
      | error e =>
        exact .idle [.warn (.joinNotEncodable e)] (fun _ => rfl) fun limit history => by
          simp [joins, join, hr, hv, he, Except.toBool]
      | ok notice =>
        by_cases hm : ∃ m ∈ members, m.id = session.id
        · refine .idle [] (fun _ => rfl) fun limit history => ?_
          have member : hasMember ⟨limit, members, history⟩ session.id = true :=
            hasMember_iff.mpr hm
          simp [joins, join, hr, hv, he, Except.toBool, member]
        · refine .join name notice (by simpa using hm) hv he fun limit history => ?_
          have stranger : hasMember ⟨limit, members, history⟩ session.id = false :=
            Bool.eq_false_iff.mpr fun h => hm (hasMember_iff.mp h)
          simp [joins, join, hr, hv, he, Except.toBool, stranger, record]
          rfl

theorem leave_stranger {room : Room} {id : SessionId} (h : room.member? id = none) :
    room.leave id = (room, []) := by
  rw [leave, h]

theorem leave_member {room : Room} {id : SessionId} {m : Member} (h : room.member? id = some m) :
    room.leave id = (⟨room.limit, room.members.filter (·.id ≠ id),
        recent room.limit (room.history ++ [leaveNotice m.nickname])⟩,
      farewell ⟨room.limit, room.members.filter (·.id ≠ id), room.history⟩ id m.nickname) := by
  rw [leave, h]
  rfl

theorem member?_id {room : Room} {id : SessionId} {m : Member} (h : room.member? id = some m) :
    m.id = id := by
  simpa using List.find?_some h

theorem leave_deed (members : List Member) (c : Call)
    (hc : ∀ room : Room, room.answer c = room.leave c.session.id) : Deed members c := by
  -- Who is a member does not depend on the limit and the history.
  cases hm : member? ⟨0, members, []⟩ c.session.id with
  | none =>
    refine .idle [] (fun _ => rfl) fun limit history => ?_
    rw [hc]
    exact leave_stranger hm
  | some m =>
    refine .leave m (List.mem_of_find?_eq_some hm) (member?_id hm) fun limit history => ?_
    rw [hc]
    exact leave_member hm

theorem deed (members : List Member) (c : Call) : Deed members c := by
  obtain ⟨session, hook⟩ := c
  cases hook with
  | message input output =>
    cases hi : introduced? input with
    | none => exact hear_deed members session input output hi
    | some name => exact join_deed members session input output hi
  | close | finish => exact leave_deed members _ fun _ => rfl
  | _ => exact .idle _ (fun _ => rfl) fun _ _ => rfl

/-- What a room relies on: nobody is a member twice, every name was fit for a notice, and nothing is
kept beyond the limit. -/
structure Sound (room : Room) : Prop where
  distinct : (room.members.map (·.id)).Nodup
  named : ∀ m ∈ room.members, (joinNotice m.nickname).validate = .ok ()
  brief : recent room.limit room.history = room.history

theorem Sound.empty (limit : Nat) : Sound { limit } :=
  ⟨List.nodup_nil, by simp, by simp [recent]⟩

theorem recent_zero (ms : List Message) : recent 0 ms = ms := rfl

/-- What is forgotten once does not come back. -/
theorem recent_append (limit : Nat) (ms ms' : List Message) :
    recent limit (recent limit ms ++ ms') = recent limit (ms ++ ms') := by
  unfold recent
  split
  · rfl
  · simp only [List.length_append, List.length_drop, List.drop_append, List.drop_drop]
    congr 2 <;> omega

theorem recent_recent (limit : Nat) (ms : List Message) :
    recent limit (recent limit ms) = recent limit ms := by
  simpa using recent_append limit ms []

theorem leaveNotice_valid {name : String} (h : (joinNotice name).validate = .ok ()) :
    (leaveNotice name).validate = .ok () := by
  have fit := (Message.validate_eq_ok_iff.mp h).2.1
  have filled : 0 < (Bytes.ofString "is leaving").length := by decide
  have short : (Bytes.ofString "is leaving").length ≤ maxLength := by decide
  exact Message.validate_eq_ok_iff.mpr ⟨filled, fit, short⟩

/-- Every message of a buffer can be written again. -/
theorem batches_valid (input : Bytes) :
    ∀ m ∈ (readAll input).batches.flatten, m.validate = .ok () := by
  obtain ⟨envelopes, spelled, -⟩ := readAll_sound input
  have valid :=
    ((List.forall₂_and_left _ envelopes).mp (spelled.imp fun _ _ hb => ⟨hb.valid, hb⟩)).1
  intro m hm
  obtain ⟨ms, hms, hm⟩ := List.mem_flatten.mp hm
  exact valid ms hms m hm

section

variable {room : Room} (c : Call)

theorem answer_limit : (room.answer c).1.limit = room.limit := by
  obtain ⟨limit, members, history⟩ := room
  cases deed members c with
  | _ => simp [*]

theorem answer_history (h : room.Sound) :
    (room.answer c).1.history = recent room.limit (room.history ++ room.news c) := by
  obtain ⟨limit, members, history⟩ := room
  have brief := h.brief
  cases deed members c with
  | _ => simp_all [news, recent_zero]

theorem news_valid (h : room.Sound) : ∀ m ∈ room.news c, m.validate = .ok () := by
  obtain ⟨limit, members, history⟩ := room
  cases deed members c with
  | idle actions quiet h => simp [news, h]
  | join name notice new valid written h => simp [news, h, recent_zero, valid]
  | leave m old hm h' => simp [news, h', recent_zero, leaveNotice_valid (h.named m old)]
  | hear input warnings quiet h =>
    simpa [news, h, recent_zero] using batches_valid input

theorem Sound.answer (h : room.Sound) : (room.answer c).1.Sound := by
  obtain ⟨limit, members, history⟩ := room
  cases deed members c with
  | idle actions quiet h' => rwa [h']
  | join name notice new valid written h' =>
    rw [h']
    refine ⟨?_, ?_, recent_recent _ _⟩
    · simpa [List.nodup_append, h.distinct] using new
    · simpa [or_imp, forall_and, valid] using h.named
  | leave m old hm h' =>
    rw [h']
    exact ⟨h.distinct.sublist (List.filter_sublist.map _),
      fun m hm => h.named m (List.mem_of_mem_filter hm), recent_recent _ _⟩
  | hear input warnings quiet h' =>
    rw [h']
    exact ⟨h.distinct, h.named, recent_recent _ _⟩

/-- What a call records is sent to every member but the one that made it, and to nobody else. -/
theorem answer_sends (h : room.Sound) :
    ∃ sent : List Bytes, (∀ data ∈ sent, (readAll data).offset = data.length ∧
        (readAll data).error = none) ∧ sent.flatMap decoded = room.news c ∧
      ∀ id, pushes id (room.answer c).2 =
        if id ≠ c.session.id ∧ room.hasMember id = true then sent else [] := by
  obtain ⟨limit, members, history⟩ := room
  cases deed members c with
  | idle actions quiet h' => exact ⟨[], by simp, by simp [news, h'], by simp [h', quiet]⟩
  | join name notice new valid written h' =>
    have read := readAll_encode written
    refine ⟨[notice], by simp [read], by simp [decoded, read, news, h', recent_zero], fun id => ?_⟩
    rw [h', ← pushes_postOthers _ h.distinct]
    change pushes id ([_, _] ++ postOthers _ _ _) = _
    rw [pushes_append, recalled]
    split <;> rfl
  | leave m old hm h' =>
    obtain ⟨data, written⟩ := encode_one (leaveNotice_valid (h.named m old))
    have read := readAll_encode written
    refine ⟨[data], by simp [read], by simp [decoded, read, news, h', recent_zero], fun id => ?_⟩
    rw [h', farewell, written]
    dsimp only
    rw [pushes_postOthers _ (h.distinct.sublist (List.filter_sublist.map _))]
    refine if_congr (and_congr_right fun other => ?_) rfl rfl
    exact hasMember_filter other
  | hear input warnings quiet h' =>
    have read := readAll_take input
    refine ⟨[input.take (readAll input).offset], by simp [read],
      by simp [decoded, read, news, h', recent_zero], fun id => ?_⟩
    rw [h', ← pushes_postOthers _ h.distinct, pushes_append, quiet]
    rfl

/-- Nobody becomes a member or ceases to be one but by its own call. -/
theorem answer_member {id : SessionId} (h : id ≠ c.session.id) :
    (room.answer c).1.hasMember id = true ↔ room.hasMember id = true := by
  obtain ⟨limit, members, history⟩ := room
  cases deed members c with
  | idle actions quiet h' => rw [h']
  | join name notice new valid written h' =>
    simp only [h', hasMember_iff, List.mem_append, List.mem_singleton]
    constructor
    · rintro ⟨m, hm | rfl, hi⟩
      · exact ⟨m, hm, hi⟩
      · exact absurd hi.symm h
    · rintro ⟨m, hm, hi⟩
      exact ⟨m, .inl hm, hi⟩
  | leave m old hm h' =>
    rw [h']
    exact hasMember_filter h
  | hear input warnings quiet h' => simp [h', hasMember_iff]

/-- A session that becomes a member is announced, and greeted with what is remembered then. -/
theorem answer_greets (h : room.Sound) {id : SessionId} (hid : room.hasMember id = false)
    (joined : (room.answer c).1.hasMember id = true) :
    id = c.session.id ∧ ∃ name, room.news c = [joinNotice name] ∧
      ∀ past, encode (room.answer c).1.history = .ok past →
        appended (room.answer c).2 = greeting name ++ past := by
  have author : id = c.session.id := by
    by_contra other
    rw [(answer_member c other).mp joined] at hid
    cases hid
  refine ⟨author, ?_⟩
  obtain ⟨limit, members, history⟩ := room
  cases deed members c with
  | join name notice new valid written h' =>
    refine ⟨name, by simp [news, h', recent_zero], fun past hp => ?_⟩
    rw [h'] at hp ⊢
    simp only [recalled, hp]
    have none_appended := appended_postOthers ⟨limit, members, history⟩ c.session.id notice
    simp only [appended, List.flatMap_cons] at none_appended ⊢
    rw [none_appended, List.append_nil]
  | idle actions quiet h' =>
    rw [h', hid] at joined
    cases joined
  | leave m old hm h' =>
    simp only [h', hasMember_iff, List.mem_filter] at joined
    obtain ⟨m', ⟨hm', -⟩, he⟩ := joined
    rw [hasMember_iff.mpr ⟨m', hm', he⟩] at hid
    cases hid
  | hear input warnings quiet h' =>
    simp only [h', hasMember_iff] at joined
    rw [hasMember_iff.mpr joined] at hid
    cases hid

end

theorem after_cons (room : Room) (c : Call) (calls : List Call) :
    room.after (c :: calls) = (room.answer c).1.after calls := rfl

theorem after_append (room : Room) (calls calls' : List Call) :
    room.after (calls ++ calls') = (room.after calls).after calls' := List.foldl_append

theorem log_append (room : Room) (calls calls' : List Call) :
    room.log (calls ++ calls') = room.log calls ++ (room.after calls).log calls' := by
  induction calls generalizing room with
  | nil => rfl
  | cons c calls ih => simp [log, ih, after_cons]

theorem Sound.after {room : Room} (h : room.Sound) (calls : List Call) :
    (room.after calls).Sound := by
  induction calls generalizing room with
  | nil => exact h
  | cons c calls ih => exact ih (h.answer c)

/-- The room remembers the end of its log. -/
theorem after_history {room : Room} (h : room.Sound) (calls : List Call) :
    (room.after calls).history =
      recent room.limit (room.history ++ (room.log calls).map (·.message)) := by
  induction calls generalizing room with
  | nil => simpa [log, after] using h.brief.symm
  | cons c calls ih =>
    rw [after_cons, ih (h.answer c), answer_limit, answer_history c h, recent_append]
    simp [log, Function.comp_def]

theorem log_valid {room : Room} (h : room.Sound) (calls : List Call) :
    ∀ e ∈ room.log calls, e.message.validate = .ok () := by
  induction calls generalizing room with
  | nil => simp [log]
  | cons c calls ih =>
    intro e he
    rcases List.mem_append.mp he with he | he
    · obtain ⟨m, hm, rfl⟩ := List.mem_map.mp he
      exact news_valid c h m hm
    · exact ih (h.answer c) e he

/-- A session is a member through all of a run. -/
def Keeps (room : Room) (id : SessionId) (calls : List Call) : Prop :=
  ∀ stay, stay <+: calls → (room.after stay).hasMember id = true

/-- A member is sent what the others record, whole and in order. -/
theorem posted_to_member {room : Room} (h : room.Sound) {id : SessionId} {calls : List Call}
    (member : room.Keeps id calls) :
    (∀ data ∈ posted id room calls, (readAll data).offset = data.length ∧
        (readAll data).error = none) ∧
      (posted id room calls).flatMap decoded =
        ((room.log calls).filter (·.author ≠ id)).map (·.message) := by
  induction calls generalizing room with
  | nil => simp [posted, log]
  | cons c calls ih =>
    obtain ⟨whole, later⟩ := ih (h.answer c) fun stay hs =>
      member (c :: stay) (List.cons_prefix_cons.mpr ⟨rfl, hs⟩)
    obtain ⟨sent, read, told, pushed⟩ := answer_sends c h
    have here : room.hasMember id = true := member [] List.nil_prefix
    have entries : (((room.news c).map (⟨c.session.id, ·⟩ : Message → Entry)).filter
        (·.author ≠ id)).map (·.message) = if id ≠ c.session.id then room.news c else [] := by
      rw [List.filter_map, List.map_map]
      split
      · rename_i other
        simp [Function.comp_def, Ne.symm other]
      · rename_i own
        simp [Function.comp_def, not_not.mp own]
    rw [posted, log, pushed id, List.filter_append, List.map_append, List.flatMap_append, later,
      entries]
    by_cases other : id ≠ c.session.id
    · rw [if_pos ⟨other, here⟩, if_pos other, told]
      refine ⟨fun data hd => ?_, rfl⟩
      exact (List.mem_append.mp hd).elim (read data) (whole data)
    · rw [if_neg fun both => other both.1, if_neg other]
      exact ⟨whole, rfl⟩

theorem recent_length (limit : Nat) (ms : List Message) : (recent limit ms).length ≤ ms.length := by
  unfold recent
  split
  · exact Nat.le_refl _
  · simp

theorem recent_ne_nil (limit : Nat) {ms : List Message} (h : ms ≠ []) : recent limit ms ≠ [] := by
  unfold recent
  split
  · exact h
  · have := List.length_pos_iff.mpr h
    rw [ne_eq, List.drop_eq_nil_iff]
    omega

theorem recent_subset (limit : Nat) (ms : List Message) : recent limit ms ⊆ ms := by
  unfold recent
  split
  · exact List.Subset.refl ms
  · exact List.drop_subset _ _

theorem after_snoc (room : Room) (calls : List Call) (c : Call) :
    room.after (calls ++ [c]) = ((room.after calls).answer c).1 :=
  after_append room calls [c]

/-- What a room remembers can be sent, as long as the log is short enough to be counted. -/
theorem history_written (limit : Nat) {calls : List Call} (some_entry : log { limit } calls ≠ [])
    (short : (log { limit } calls).length < 2 ^ 32) :
    ∃ past, encode (recent limit ((log { limit } calls).map (·.message))) = .ok past := by
  have size : maxLength = 2 ^ 32 - 1 := rfl
  have length := recent_length limit ((log { limit } calls).map (·.message))
  rw [List.length_map] at length
  refine ⟨_, encode_ok ?_ (by omega) fun m hm => ?_⟩
  · exact List.length_pos_iff.mpr (recent_ne_nil limit (by simpa using some_entry))
  · obtain ⟨e, he, rfl⟩ := List.mem_map.mp (recent_subset limit _ hm)
    exact log_valid (.empty limit) calls e he

/-- Whatever its sessions do and in whatever order, a room remembers the end of its log. It greets
a newcomer with that, up to and including the notice of its arrival; sends it, from then until it
leaves, what the others add to the log, each message once and in order; and sends it nothing
before and after. -/
theorem delivers (limit : Nat) (calls : List Call)
    (short : (log { limit } calls).length < 2 ^ 32) :
    (after { limit } calls).history = recent limit ((log { limit } calls).map (·.message)) ∧
      ∀ (before later : List Call) (c : Call) (id : SessionId), calls = before ++ c :: later →
        (¬((after { limit } before).hasMember id = true ∧
            (after { limit } (before ++ [c])).hasMember id = true) →
          pushes id ((after { limit } before).answer c).2 = []) ∧
        ((after { limit } before).hasMember id = false →
          (after { limit } (before ++ [c])).hasMember id = true →
          (∃ name past,
            log { limit } (before ++ [c]) = log { limit } before ++ [⟨id, joinNotice name⟩] ∧
            encode (recent limit ((log { limit } (before ++ [c])).map (·.message))) = .ok past ∧
            appended ((after { limit } before).answer c).2 = greeting name ++ past) ∧
          ∀ during, during <+: later → (after { limit } (before ++ [c])).Keeps id during →
            (∀ data ∈ posted id (after { limit } (before ++ [c])) during,
              (readAll data).offset = data.length ∧ (readAll data).error = none) ∧
            ∃ entries,
              log { limit } (before ++ [c] ++ during) = log { limit } (before ++ [c]) ++ entries ∧
              (posted id (after { limit } (before ++ [c])) during).flatMap decoded =
                (entries.filter (·.author ≠ id)).map (·.message)) := by
  have sound := (Sound.empty limit).after
  have history (calls : List Call) :
      (after { limit } calls).history = recent limit ((log { limit } calls).map (·.message)) := by
    simpa using after_history (Sound.empty limit) calls
  refine ⟨history calls, fun before later c id he =>
    ⟨fun away => ?_, fun stranger joined => ⟨?_, ?_⟩⟩⟩
  · obtain ⟨sent, -, -, pushed⟩ := answer_sends c (sound before)
    rw [pushed, if_neg]
    rintro ⟨other, member⟩
    rw [after_snoc] at away
    exact away ⟨member, (answer_member c other).mpr member⟩
  · rw [after_snoc] at joined
    obtain ⟨rfl, name, news, greets⟩ := answer_greets c (sound before) stranger joined
    have logged : log { limit } (before ++ [c]) =
        log { limit } before ++ [⟨c.session.id, joinNotice name⟩] := by
      rw [log_append]
      simp [log, news]
    have countable : (log { limit } (before ++ [c])).length < 2 ^ 32 := by
      have split : calls = before ++ [c] ++ later := by simp [he]
      rw [split, log_append, List.length_append] at short
      omega
    obtain ⟨past, written⟩ := history_written limit (by simp [logged]) countable
    refine ⟨name, past, logged, written, greets past ?_⟩
    rw [← after_snoc, history]
    exact written
  · intro during _ member
    obtain ⟨whole, told⟩ := posted_to_member (sound _) member
    exact ⟨whole, _, log_append _ _ _, told⟩

/-- A session that its driver runs says something. -/
def speaks (id : SessionId) (text : String) : Call :=
  ⟨{ Session.server id {} with reachable := true }, .message (Bytes.ofString text) []⟩

/-- Two members and a guest that gives no name. -/
def visiting : List Call :=
  [speaks 0 "My name is Ann", speaks 1 "My name is Bob",
    speaks 0 "inv:2:message:2:Ann:himessage:5:Ann:there", speaks 2 "inv:1:message:1:Eve:xinv:0:",
    speaks 1 "inv:1:message:2:Bob:yo", ⟨.server 0 {}, .finish⟩, ⟨.server 1 {}, .close []⟩]

theorem visiting_delivers :
    (log { limit := 2 } visiting).length < 2 ^ 32 ∧
      (after { limit := 2 } visiting).history = [leaveNotice "Ann", leaveNotice "Bob"] ∧
      (∃ past, encode [joinNotice "Ann", joinNotice "Bob"] = .ok past ∧
        appended ((after { limit := 2 } (visiting.take 1)).answer (speaks 1 "My name is Bob")).2 =
          greeting "Bob" ++ past) ∧
      (posted 1 (after { limit := 2 } (visiting.take 2)) ((visiting.drop 2).take 4)).flatMap
          decoded =
        [⟨"hi", "Ann"⟩, ⟨"there", "Ann"⟩, ⟨"x", "Eve"⟩, leaveNotice "Ann"] := by
  have short : (log { limit := 2 } visiting).length < 2 ^ 32 := by decide +kernel
  obtain ⟨history, members⟩ := delivers 2 visiting short
  obtain ⟨⟨name, past, logged, written, greeted⟩, sent⟩ :=
    (members (visiting.take 1) (visiting.drop 2) (speaks 1 "My name is Bob") 1 rfl).2
      (by decide +kernel) (by decide +kernel)
  have stays : ∀ stay ∈ ((visiting.drop 2).take 4).inits,
      ((after { limit := 2 } (visiting.take 2)).after stay).hasMember 1 = true := by
    decide +kernel
  obtain ⟨-, entries, logged', told⟩ := sent ((visiting.drop 2).take 4) (List.take_prefix _ _)
    fun stay hs => stays stay ((List.mem_inits _ _).mpr hs)
  have named : [⟨1, joinNotice name⟩] = [(⟨1, joinNotice "Bob"⟩ : Entry)] :=
    List.append_cancel_left (logged.symm.trans (by decide +kernel))
  obtain rfl : name = "Bob" := by simpa [joinNotice] using named
  have remembered : recent 2 ((log { limit := 2 } (visiting.take 2)).map (·.message)) =
      [joinNotice "Ann", joinNotice "Bob"] := by decide +kernel
  have others : entries = [⟨0, ⟨"hi", "Ann"⟩⟩, ⟨0, ⟨"there", "Ann"⟩⟩, ⟨2, ⟨"x", "Eve"⟩⟩,
      ⟨1, ⟨"yo", "Bob"⟩⟩, ⟨0, leaveNotice "Ann"⟩] :=
    List.append_cancel_left (logged'.symm.trans (by decide +kernel))
  refine ⟨short, history.trans (by decide +kernel), ⟨past, ?_, greeted⟩, told.trans ?_⟩
  · rw [← remembered]
    exact written
  · rw [others]
    decide

end Room

end Parley.Chat

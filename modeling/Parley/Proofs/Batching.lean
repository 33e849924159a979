import Parley.Proofs.Reply

namespace Parley

open Chat (appended)

variable {σ : Type}

/-- A handler that answers each message by itself, and says nothing on any other occasion. -/
structure Handler.Replies (h : Handler σ) (reply : Bytes → Bytes) : Prop where
  modest : h.Modest
  message (input output : Bytes) (s : Session) (shared : σ) :
    appended (h.react (.message input output) s shared).2 = reply input
  accept (output : Bytes) (s : Session) (shared : σ) :
    appended (h.react (.accept output) s shared).2 = []
  handshake (response : UpgradeResponse) (output : Bytes) (s : Session) (shared : σ) :
    appended (h.react (.handshake response output) s shared).2 = []

/-- What an action gives to a session whose handler replies. -/
def Action.gift (reply : Bytes → Bytes) : Action → Bytes
  | .complete (.read (.ok frame)) => reply frame.data
  | a => a.pushes

/-- The frame of data that an action tells of. -/
def Action.heard? : Action → Option Frame
  | .complete (.read (.ok frame)) => some frame
  | _ => none

/-- An action that tells of no frame gives what it pushes, and leaves the type of what is sent. -/
theorem Action.heard_cases (a : Action) : (∃ frame, a = .complete (.read (.ok frame))) ∨
    a.heard? = none ∧ (∀ reply, a.gift reply = a.pushes) ∧ ∀ s, Session.tone s a = s.outgoing := by
  by_cases h : ∃ frame, a = .complete (.read (.ok frame))
  · exact .inl h
  · refine .inr ⟨?_, fun reply => ?_, fun s => ?_⟩
    · unfold heard?
      split
      · exact absurd ⟨_, rfl⟩ h
      · rfl
    · unfold gift
      split
      · exact absurd ⟨_, rfl⟩ h
      · rfl
    · unfold Session.tone
      split
      · exact absurd ⟨_, rfl⟩ h
      · rfl

/-- All that a session is given, less the empty gifts. -/
def gifts (reply : Bytes → Bytes) (ms : List (Moment σ)) : List Bytes :=
  (ms.map (·.action.gift reply)).filter (· ≠ [])

/-- A session as it is between two moments, no hook running and no body waiting. -/
structure Session.IsPoised (s : Session) : Prop where
  inHook : s.inHook = false
  plain : s.IsPlain

theorem Session.Fresh.poised {s : Session} (h : s.Fresh) : s.IsPoised := by
  cases h with
  | server id config => exact ⟨rfl, by rintro _ ⟨⟩ body ⟨⟩⟩
  | client id config =>
    refine ⟨rfl, fun d hd => ?_⟩
    change d ∈ (if config.keepalive = true then some .new else none) at hd
    split at hd <;> cases hd
    exact fun body => nofun

/-- What becomes of a session at one moment, as long as it is not closing. -/
structure Turn.Advances (t : Turn σ) (data : Bytes) (a : Action) (t' : Turn σ) : Prop where
  poised : t'.session.IsPoised
  forward : t.session.phase.rank ≤ t'.session.phase.rank
  sends : ∃ x : Session.Step, t'.session = x.session ∧
    dispatched t'.events = dispatched t.events ++ dispatched x.events ∧
    (2 < x.session.phase.rank → dispatched x.events = []) ∧
    (x.session.phase.rank ≤ 2 → x.Dispatches (t.session.tuned a) data)

/-- What one moment makes of a queue: the session ends and nothing goes out, or what it is given
joins the queue, or goes out with it in one frame. -/
inductive Turn.Fate (t : Turn σ) (data : Bytes) (t' : Turn σ) : Prop
  | ends (gone : 2 < t'.session.phase.rank) (sent : dispatched t'.events = dispatched t.events)
  | queues (before : t.session.phase.rank ≤ 2) (here : t'.session.phase.rank ≤ 2)
      (sent : dispatched t'.events = dispatched t.events)
      (queued : t'.session.output = t.session.output ++ data)
      (idle : t'.session.writing = true → t.session.writing = true)
  | sends (before : t.session.phase.rank ≤ 2) (here : t'.session.phase.rank ≤ 2)
      (filled : t.session.output ++ data ≠ [])
      (sent : dispatched t'.events =
        dispatched t.events ++ [⟨t'.session.outgoing, t.session.output ++ data⟩])
      (empty : t'.session.output = [])

namespace Turn.Advances

variable {t t' : Turn σ} {data : Bytes} {a : Action}

theorem fate (h : t.Advances data a t') : t.Fate data t' := by
  obtain ⟨-, forward, x, session, sent, ended, alive⟩ := h
  rw [session] at forward
  rcases Nat.lt_or_ge 2 x.session.phase.rank with gone | here
  · rw [ended gone, List.append_nil] at sent
    exact .ends (session ▸ gone) sent
  · obtain ⟨goes, -, -, -, idle, -⟩ := alive here
    have before := Nat.le_trans forward here
    rw [← session] at here goes idle
    generalize dispatched x.events = frames at goes idle sent
    cases goes with
    | queues queued =>
      rw [List.append_nil] at sent
      exact .queues before here sent queued (idle rfl)
    | sends filled _ empty => exact .sends before here filled sent empty
    | ends gone => exact absurd gone (Nat.not_lt.mpr here)

/-- Before the end, the types of frames change as the action says. -/
theorem kinds (h : t.Advances data a t') (here : t'.session.phase.rank ≤ 2) :
    t'.session.outgoing = t.session.tone a ∧ t'.session.frameMode = t.session.frameMode := by
  obtain ⟨-, -, x, session, -, -, alive⟩ := h
  rw [session] at here ⊢
  exact ⟨(alive here).outgoing, (alive here).frameMode⟩

theorem awake (h : t.Advances data a t') (here : t'.session.phase.rank ≤ 2)
    (awake : t.session.Awake) : t'.session.Awake := by
  obtain ⟨-, -, x, session, -, -, alive⟩ := h
  rw [session] at here ⊢
  exact (alive here).awake awake

end Turn.Advances

theorem Handler.course_snoc (h : Handler σ) (depth : Nat) (s : Session) (shared : σ)
    (ms : List (Moment σ)) (m : Moment σ) :
    h.course depth s shared (ms ++ [m]) = (h.course depth s shared ms).meet (h.host depth) m :=
  List.foldl_append

namespace Handler.Replies

variable {h : Handler σ} {reply : Bytes → Bytes} (hr : h.Replies reply) (depth : Nat)

include hr

/-- Before the end, an action gives what it gives by itself. -/
theorem gift_eq {t : Turn σ} (alive : t.session.phase.rank ≤ 2) (a : Action) :
    h.gift t a = a.gift reply := by
  have open_ := Session.open_of_rank alive
  cases a with
  | complete c =>
    unfold Handler.gift
    dsimp only
    split
    · rename_i hook asks
      unfold Session.asks at asks
      split at asks
      · split at asks <;> cases asks
        exact hr.accept _ _ _
      · split at asks <;> cases asks
        exact hr.handshake _ _ _ _
      · split at asks <;> cases asks
        exact hr.message _ _ _ _
      · cases asks
    · rename_i asks
      unfold Action.gift
      split
      · rename_i frame he
        cases he
        simp [Session.asks, open_] at asks
      · rfl
  | _ => rfl

theorem meet_advances {t : Turn σ} (hp : t.session.IsPoised) {m : Moment σ}
    (ht : m.action.isTame = true) :
    t.Advances (m.action.gift reply) m.action (t.meet (h.host (depth + 1)) m) := by
  obtain ⟨_, -, -, path⟩ := (h.host_sound (depth + 1)).meet_path t m []
  have forward := path.forward.2
  obtain ⟨plain, x, session, sent, sends⟩ := hr.modest.perform_sends depth
    (t := t.facing m) ht hp.inHook hp.plain
  rw [← Turn.meet_eq] at session sent plain
  refine ⟨⟨?_, plain hp.plain⟩, forward, x, session, sent, fun gone => ?_, fun alive => ?_⟩
  · rw [session, sends.inHook]
    exact hp.inHook
  · have goes := sends.goes
    generalize dispatched x.events = frames at goes
    cases goes with
    | sends filled alive h => exact absurd gone (Nat.not_lt.mpr alive)
    | _ => rfl
  · rw [session] at forward
    have given := hr.gift_eq (t := t.facing m) (Nat.le_trans forward alive) m.action
    rw [given] at sends
    exact sends.of_outbox rfl

end Handler.Replies

/-- The frames are made of the gifts in their order, some to each. Before the end, the gifts that
are not in one are queued. -/
def Batched (given : List Bytes) (frames : List Frame) (s : Session) : Prop :=
  ∃ groups : List (List Bytes), frames.map (·.data) = groups.map (·.flatten) ∧
    (∀ group ∈ groups, group ≠ []) ∧ groups.flatten <+: given ∧
    (s.phase.rank ≤ 2 →
      ∃ waiting, given = groups.flatten ++ waiting ∧ s.output = waiting.flatten)

theorem flatten_unless_nil (data : Bytes) : ([data].filter (· ≠ [])).flatten = data := by
  by_cases h : data = [] <;> simp [h]

theorem Batched.advance {given : List Bytes} {data : Bytes} {a : Action} {t t' : Turn σ}
    (h : Batched given (dispatched t.events) t.session) (hx : t.Advances data a t') :
    Batched (given ++ [data].filter (· ≠ [])) (dispatched t'.events) t'.session := by
  obtain ⟨groups, made, filled, ordered, left⟩ := h
  have longer := ordered.trans (List.prefix_append given ([data].filter (· ≠ [])))
  cases hx.fate with
  | ends gone sent =>
    rw [sent]
    exact ⟨groups, made, filled, longer, fun here => absurd gone (Nat.not_lt.mpr here)⟩
  | queues before _ sent queued =>
    obtain ⟨waiting, he, queue⟩ := left before
    rw [sent]
    refine ⟨groups, made, filled, longer, fun _ => ⟨waiting ++ [data].filter (· ≠ []), ?_, ?_⟩⟩
    · rw [he, List.append_assoc]
    · rw [queued, queue, List.flatten_append, flatten_unless_nil]
  | sends before _ some_data sent empty =>
    obtain ⟨waiting, he, queue⟩ := left before
    have behind : (waiting ++ [data].filter (· ≠ [])).flatten = t.session.output ++ data := by
      rw [List.flatten_append, flatten_unless_nil, queue]
    have all : given ++ [data].filter (· ≠ []) =
        (groups ++ [waiting ++ [data].filter (· ≠ [])]).flatten := by
      rw [he, List.flatten_append, List.flatten_singleton, List.append_assoc]
    rw [sent]
    refine ⟨groups ++ [waiting ++ [data].filter (· ≠ [])], ?_, ?_, all ▸ List.prefix_rfl,
      fun _ => ⟨[], by rw [all, List.append_nil], empty⟩⟩
    · rw [List.map_append, List.map_append, made, List.map_singleton, List.map_singleton, behind]
    · intro group hg
      rcases List.mem_append.mp hg with hg | hg
      · exact filled group hg
      · rintro rfl
        rw [← List.mem_singleton.mp hg] at behind
        exact some_data behind.symm

/-- The frames that are sent in the course of a session that replies are its gifts, some in a row to
each, whatever else happens. -/
theorem Handler.Replies.course_batched {h : Handler σ} {reply : Bytes → Bytes} (hr : h.Replies reply)
    (depth : Nat) {s₀ : Session} (h₀ : s₀.Fresh) (shared : σ) (ms : List (Moment σ))
    (ht : ∀ m ∈ ms, m.action.isTame = true) :
    (h.course (depth + 1) s₀ shared ms).session.IsPoised ∧
      Batched (gifts reply ms) (dispatched (h.course (depth + 1) s₀ shared ms).events)
        (h.course (depth + 1) s₀ shared ms).session := by
  induction ms using List.reverseRecOn with
  | nil =>
    refine ⟨h₀.poised, [], rfl, nofun, List.prefix_rfl, fun _ => ⟨[], rfl, ?_⟩⟩
    cases h₀ <;> rfl
  | append_singleton ms m ih =>
    obtain ⟨poised, batched⟩ := ih fun m' hm => ht m' (List.mem_append_left _ hm)
    have advances := hr.meet_advances depth poised (ht m (by simp))
    rw [course_snoc, gifts, List.map_append, List.filter_append]
    exact ⟨advances.poised, batched.advance advances⟩

end Parley

import Parley.Proofs.Batching

namespace Parley

variable {σ : Type}

/-- The frames of data that were read, less the empty ones. -/
def heard (ms : List (Moment σ)) : List Frame :=
  (ms.filterMap (·.action.heard?)).filter (·.data ≠ [])

theorem heard_snoc (ms : List (Moment σ)) (m : Moment σ) :
    heard (ms ++ [m]) = heard ms ++ m.action.heard?.toList.filter (·.data ≠ []) := by
  unfold heard
  rw [List.filterMap_append, List.filter_append, List.filterMap_cons]
  cases m.action.heard? <;> rfl

theorem Handler.echo_replies : (Handler.echo : Handler σ).Replies fun input => input where
  modest hook s shared a ha := by
    cases hook <;> simp [echo, Hook.standard] at ha <;> subst ha <;> rfl
  message input output s shared := by simp [echo, Chat.appended]
  accept output s shared := rfl
  handshake response output s shared := rfl

/-- Where nothing is pushed, what the echo service is given is what it hears. -/
theorem gifts_eq_heard (ms : List (Moment σ)) (hn : ∀ m ∈ ms, m.action.pushes = []) :
    gifts (fun input => input) ms = (heard ms).map (·.data) := by
  induction ms using List.reverseRecOn with
  | nil => rfl
  | append_singleton ms m ih =>
    have before := ih fun m' hm => hn m' (List.mem_append_left _ hm)
    have quiet := hn m (by simp)
    rw [heard_snoc, List.map_append, ← before, gifts, gifts, List.map_append, List.filter_append]
    congr 1
    rcases m.action.heard_cases with ⟨frame, ha⟩ | ⟨silent, given, -⟩
    · by_cases he : frame.data = [] <;> simp [ha, Action.gift, Action.heard?, he]
    · simp [silent, given, quiet]

/-- The frames sent are the frames heard in their order, and before the end all but at most one,
which is queued and will be sent in the type that it came in. -/
def Returned (heard frames : List Frame) (s : Session) : Prop :=
  frames <+: heard ∧ (s.phase.rank ≤ 2 → s.frameMode = .auto ∧ ∃ waiting : Option Frame,
    heard = frames ++ waiting.toList ∧ s.output = (waiting.map (·.data)).getD [] ∧
    ∀ frame ∈ waiting, frame.data ≠ [] ∧ frame.kind = s.outgoing)

theorem Session.tone_read {s : Session} (alive : s.phase.rank ≤ 2) (auto : s.frameMode = .auto)
    (frame : Frame) : s.tone (.complete (.read (.ok frame))) = frame.kind := by
  have open_ := open_of_rank alive
  simp [tone, open_, auto]

/-- What waits may go out, and nothing else. -/
theorem Returned.waits {given : List Frame} {a : Action} {t t' : Turn σ}
    (h : Returned given (dispatched t.events) t.session) (hx : t.Advances [] a t')
    (same : t.session.tone a = t.session.outgoing) :
    Returned given (dispatched t'.events) t'.session := by
  obtain ⟨ordered, left⟩ := h
  cases hx.fate with
  | ends gone sent =>
    rw [sent]
    exact ⟨ordered, fun here => absurd gone (Nat.not_lt.mpr here)⟩
  | queues before here sent queued =>
    obtain ⟨auto, waiting, he, queue, kept⟩ := left before
    obtain ⟨outgoing, frameMode⟩ := hx.kinds here
    rw [sent]
    refine ⟨ordered, fun _ => ⟨frameMode.trans auto, waiting, he, ?_, ?_⟩⟩
    · rw [queued, List.append_nil, queue]
    · rw [outgoing, same]
      exact kept
  | sends before here some_data sent empty =>
    obtain ⟨auto, waiting, he, queue, kept⟩ := left before
    obtain ⟨outgoing, frameMode⟩ := hx.kinds here
    rw [List.append_nil] at some_data sent
    cases waiting with
    | none => exact absurd queue some_data
    | some frame =>
      have whole : (⟨t'.session.outgoing, t.session.output⟩ : Frame) = frame := by
        rw [outgoing, same, ← (kept frame rfl).2, queue]
        rfl
      rw [sent, whole, he]
      exact ⟨List.prefix_rfl,
        fun _ => ⟨frameMode.trans auto, none, (List.append_nil _).symm, empty, nofun⟩⟩

/-- A frame is read while nothing is queued. -/
theorem Returned.hears {given : List Frame} {frame : Frame} {t t' : Turn σ}
    (h : Returned given (dispatched t.events) t.session)
    (hx : t.Advances frame.data (.complete (.read (.ok frame))) t') (idle : t.session.output = []) :
    Returned (given ++ [frame].filter (·.data ≠ [])) (dispatched t'.events) t'.session := by
  obtain ⟨ordered, left⟩ := h
  -- Nothing waits, for nothing is queued.
  have caught_up (before : t.session.phase.rank ≤ 2) : given = dispatched t.events := by
    obtain ⟨-, waiting, he, queue, kept⟩ := left before
    cases waiting with
    | none => exact he.trans (List.append_nil _)
    | some frame => exact absurd (queue.symm.trans idle) (kept frame rfl).1
  have longer := ordered.trans (List.prefix_append given ([frame].filter (·.data ≠ [])))
  cases hx.fate with
  | ends gone sent =>
    rw [sent]
    exact ⟨longer, fun here => absurd gone (Nat.not_lt.mpr here)⟩
  | queues before here sent queued =>
    obtain ⟨outgoing, frameMode⟩ := hx.kinds here
    have auto := (left before).1
    rw [sent]
    rw [idle, List.nil_append] at queued
    refine ⟨longer, fun _ => ⟨frameMode.trans auto, ?_⟩⟩
    by_cases blank : frame.data = []
    · exact ⟨none, by simp [blank, caught_up before], queued.trans blank, nofun⟩
    · refine ⟨some frame, by simp [blank, caught_up before], queued, ?_⟩
      rintro _ ⟨⟩
      exact ⟨blank, (outgoing.trans (Session.tone_read before auto frame)).symm⟩
  | sends before here some_data sent empty =>
    obtain ⟨outgoing, frameMode⟩ := hx.kinds here
    have auto := (left before).1
    rw [idle, List.nil_append] at some_data sent
    have whole : (⟨t'.session.outgoing, frame.data⟩ : Frame) = frame := by
      rw [outgoing, Session.tone_read before auto frame]
    have all : given ++ [frame].filter (·.data ≠ []) = dispatched t.events ++ [frame] := by
      simp [some_data, caught_up before]
    rw [sent, whole, all]
    exact ⟨List.prefix_rfl,
      fun _ => ⟨frameMode.trans auto, none, (List.append_nil _).symm, empty, nofun⟩⟩

/-- Where no frame is read while another is queued, each is sent before the next one is read. -/
theorem Handler.echo_keeps_up (depth : Nat) {s₀ : Session} (h₀ : s₀.Fresh)
    (auto : s₀.frameMode = .auto) (shared : σ) (ms : List (Moment σ))
    (ht : ∀ m ∈ ms, m.action.isTame = true) (hn : ∀ m ∈ ms, m.action.pushes = [])
    (idle : ∀ before m after, ms = before ++ m :: after → m.action.heard?.isSome = true →
      (echo.course (depth + 1) s₀ shared before).session.output = []) :
    Returned (heard ms) (dispatched (echo.course (depth + 1) s₀ shared ms).events)
      (echo.course (depth + 1) s₀ shared ms).session := by
  induction ms using List.reverseRecOn with
  | nil =>
    refine ⟨List.prefix_rfl, fun _ => ⟨auto, none, rfl, ?_, nofun⟩⟩
    cases h₀ <;> rfl
  | append_singleton ms m ih =>
    have ht' : ∀ m' ∈ ms, m'.action.isTame = true := fun m' hm => ht m' (List.mem_append_left _ hm)
    have returned := ih ht' (fun m' hm => hn m' (List.mem_append_left _ hm))
      fun before m' after he => idle before m' (after ++ [m]) (by simp [he])
    obtain ⟨poised, -⟩ := Handler.echo_replies.course_batched depth h₀ shared ms ht'
    have advances := Handler.echo_replies.meet_advances depth poised (ht m (by simp))
    rw [course_snoc, heard_snoc]
    rcases m.action.heard_cases with ⟨frame, ha⟩ | ⟨silent, given, same⟩
    · have nothing := idle ms m [] rfl (by rw [ha]; rfl)
      rw [ha] at advances ⊢
      exact returned.hears advances nothing
    · rw [given, hn m (by simp)] at advances
      rw [silent, Option.toList_none, List.filter_nil, List.append_nil]
      exact returned.waits advances (same _)

/-- The echo service sends back whole messages in the order in which it heard them, though some in a
row may share a frame. As long as none is read while another is queued, in the automatic mode, each
goes back as the frame that it was. -/
theorem Handler.echo_returns (depth : Nat) {s₀ : Session} (h₀ : s₀.Fresh) (shared : σ)
    (ms : List (Moment σ)) (ht : ∀ m ∈ ms, m.action.isTame = true)
    (hn : ∀ m ∈ ms, m.action.pushes = []) :
    (∃ groups : List (List Bytes),
      (dispatched (echo.course (depth + 1) s₀ shared ms).events).map (·.data) =
        groups.map (·.flatten) ∧
      (∀ group ∈ groups, group ≠ []) ∧ groups.flatten <+: (heard ms).map (·.data)) ∧
    (s₀.frameMode = .auto →
      (∀ before m after, ms = before ++ m :: after → m.action.heard?.isSome = true →
        (echo.course (depth + 1) s₀ shared before).session.output = []) →
      dispatched (echo.course (depth + 1) s₀ shared ms).events <+: heard ms) := by
  obtain ⟨-, groups, made, filled, ordered, -⟩ :=
    Handler.echo_replies.course_batched depth h₀ shared ms ht
  rw [gifts_eq_heard ms hn] at ordered
  refine ⟨⟨groups, made, filled, ordered⟩, fun auto idle => ?_⟩
  exact (Handler.echo_keeps_up depth h₀ auto shared ms ht hn idle).1

/-- Two messages of different types, the second one when the first is on its way back already. -/
def answeredInTurn : List (Moment Unit) :=
  [.accept {}, .complete (.accepted (.ok ())), .ping [], .complete (.read (.ok ⟨.text, [97]⟩)),
    .complete (.pinged (.ok ())), .complete (.read (.ok ⟨.binary, [98]⟩)),
    .complete (.written (.ok 1))].map .plain

theorem answeredInTurn_returns :
    Session.Fresh (.server 0 {}) ∧ (∀ m ∈ answeredInTurn, m.action.isTame = true) ∧
      (∀ m ∈ answeredInTurn, m.action.pushes = []) ∧
      (Session.server 0 {}).frameMode = .auto ∧
      dispatched (Handler.echo.course 1 (.server 0 {}) () answeredInTurn).events <+:
        [⟨.text, [97]⟩, ⟨.binary, [98]⟩] := by
  have tame : ∀ m ∈ answeredInTurn, m.action.isTame = true := by decide +kernel
  have quiet : ∀ m ∈ answeredInTurn, m.action.pushes = [] := by decide +kernel
  obtain ⟨-, returns⟩ :=
    Handler.echo_returns 0 (.server 0 {}) () answeredInTurn tame quiet
  have idle := (forall_split_iff (fun before m => m.action.heard?.isSome = true →
    (Handler.echo.course 1 (.server 0 {}) () before).session.output = []) answeredInTurn).mpr
    (by decide +kernel)
  exact ⟨.server 0 {}, tame, quiet, rfl, returns rfl fun before m after => idle before m after⟩

/-- Three messages, of which the second and the third come in while the first is on its way back. -/
def chiming : List (Moment Unit) :=
  [.accept {}, .complete (.accepted (.ok ())), .ping [], .ping [],
    .complete (.read (.ok ⟨.text, [97]⟩)), .complete (.pinged (.ok ())),
    .complete (.read (.ok ⟨.text, [98]⟩)), .complete (.pinged (.ok ())),
    .complete (.read (.ok ⟨.binary, [99]⟩)), .complete (.written (.ok 1))].map .plain

def chimed : Turn Unit := Handler.echo.course 2 (.server 0 {}) () chiming

/-- Two messages that come in while another is on its way back go back as one frame, and the first of
them in the type of the second. -/
theorem chimed_merges :
    Fair chimed.record ∧ Smooth chimed.record ∧ (∀ m ∈ chiming, m.action.pushes = []) ∧
      heard chiming = [⟨.text, [97]⟩, ⟨.text, [98]⟩, ⟨.binary, [99]⟩] ∧
      dispatched chimed.events = [⟨.text, [97]⟩, ⟨.binary, [98, 99]⟩] ∧
      ¬dispatched chimed.events <+: heard chiming := by
  refine ⟨?_, ?_, ?_, ?_, ?_, ?_⟩ <;> decide +kernel

end Parley

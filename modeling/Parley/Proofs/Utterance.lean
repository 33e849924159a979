import Parley.Chat.Client
import Parley.Proofs.Batching

namespace Parley

open Chat (appended)

variable {σ : Type}

namespace Chat

/-- What the client answers to a frame. -/
def clientReply (nickname : String) (input : Bytes) : Bytes :=
  if input = nameRequest then introduction nickname else []

def IsEnvelope (data : Bytes) : Prop := ∃ messages, Envelope.encode messages = .ok data

/-- One or more pieces of a kind, one behind the other. -/
def MadeOf (P : Bytes → Prop) (data : Bytes) : Prop :=
  ∃ pieces : List Bytes, pieces ≠ [] ∧ pieces.flatten = data ∧ ∀ piece ∈ pieces, P piece

theorem MadeOf.single {P : Bytes → Prop} {data : Bytes} (h : P data) : MadeOf P data :=
  ⟨[data], by simp, by simp, by simpa using h⟩

theorem MadeOf.append {P : Bytes → Prop} {data data' : Bytes} (h : MadeOf P data)
    (h' : MadeOf P data') : MadeOf P (data ++ data') := by
  obtain ⟨pieces, some_piece, rfl, all⟩ := h
  obtain ⟨pieces', -, rfl, all'⟩ := h'
  refine ⟨pieces ++ pieces', by simp [some_piece], List.flatten_append, fun piece hp => ?_⟩
  exact (List.mem_append.mp hp).elim (all piece) (all' piece)

/-- The room takes envelopes in full. -/
theorem MadeOf.taken {data : Bytes} (h : MadeOf IsEnvelope data) :
    (Envelope.readAll data).offset = data.length ∧ (Envelope.readAll data).error = none := by
  obtain ⟨pieces, -, rfl, all⟩ := h
  rw [Envelope.readAll_flatten fun piece hp => ?_]
  · exact ⟨rfl, rfl⟩
  · obtain ⟨messages, written⟩ := all piece hp
    rw [Envelope.readAll_encode written]

theorem mem_deliveries {input : Bytes} {a : Action} (h : a ∈ deliveries input) :
    (∃ delivery, a = .deliver delivery) ∨ ∃ warning, a = .warn warning := by
  obtain ⟨⟨item, w⟩, -, h⟩ := List.mem_flatMap.mp h
  cases item with
  | ok messages =>
    obtain ⟨message, -, rfl⟩ := List.mem_map.mp h
    exact .inl ⟨_, rfl⟩
  | error e =>
    rcases List.mem_cons.mp h with rfl | h
    · exact .inr ⟨_, rfl⟩
    · obtain ⟨message, -, rfl⟩ := List.mem_map.mp h
      exact .inl ⟨_, rfl⟩

theorem appended_deliveries (input : Bytes) : appended (deliveries input) = [] := by
  refine List.flatMap_eq_nil_iff.mpr fun a ha => ?_
  rcases mem_deliveries ha with ⟨delivery, rfl⟩ | ⟨warning, rfl⟩ <;> rfl

end Chat

theorem Handler.chatClient_replies (nickname : String) :
    (Handler.chatClient nickname : Handler σ).Replies (Chat.clientReply nickname) where
  modest hook s shared a ha := by
    cases hook with
    | message input output =>
      simp only [chatClient] at ha
      split at ha
      · obtain rfl := List.mem_singleton.mp ha
        rfl
      · rcases Chat.mem_deliveries ha with ⟨delivery, rfl⟩ | ⟨warning, rfl⟩ <;> rfl
    | _ => simp [chatClient, Hook.standard] at ha <;> subst ha <;> rfl
  message input output s shared := by
    unfold Chat.clientReply
    simp only [chatClient]
    split
    · simp [appended]
    · exact Chat.appended_deliveries _
  accept output s shared := rfl
  handshake response output s shared := rfl

/-- A request for the client's name is read. -/
def Action.asksName (a : Action) : Bool := a.heard?.any (·.data = Chat.nameRequest)

/-- What a client is given is its introduction, when it is asked, or what is pushed. -/
theorem Action.client_gift (nickname : String) (a : Action) :
    a.gift (Chat.clientReply nickname) =
      if a.asksName then Chat.introduction nickname else a.pushes := by
  rcases a.heard_cases with ⟨frame, rfl⟩ | ⟨silent, given, -⟩
  · simp [gift, asksName, heard?, Chat.clientReply, pushes]
  · simp [given, asksName, silent]

namespace Chat

/-- The upgrade is over, and no write is in flight as long as there may be one. -/
def AtLeisure (s : Session) : Prop :=
  2 ≤ s.phase.rank ∧ (s.phase.canSend = true → s.writing = false)

instance (s : Session) : Decidable (AtLeisure s) :=
  inferInstanceAs (Decidable (2 ≤ s.phase.rank ∧ (s.phase.canSend = true → s.writing = false)))

/-- The frames sent are introductions and envelopes, and what is queued are envelopes. -/
structure Tidy (nickname : String) (frames : List Frame) (s : Session) : Prop where
  sent : ∀ frame ∈ frames, frame.data = introduction nickname ∨ MadeOf IsEnvelope frame.data
  awake : s.Awake
  queued : s.phase.rank ≤ 2 → s.output = [] ∨ MadeOf IsEnvelope s.output

theorem introduction_ne_nil (nickname : String) : introduction nickname ≠ [] :=
  List.append_ne_nil_of_left_ne_nil (by decide +kernel) _

variable {nickname : String} {data : Bytes} {a : Action} {t t' : Turn σ}

/-- After the end nothing is sent. -/
theorem Tidy.ended {frames : List Frame} {s s' : Session} (h : Tidy nickname frames s)
    (gone : 2 < s'.phase.rank) : Tidy nickname frames s' :=
  ⟨h.sent, .of_still (Phase.canSend_of_over gone), fun here => absurd gone (Nat.not_lt.mpr here)⟩

/-- An envelope is pushed, or nothing is. -/
theorem Tidy.speaks (h : Tidy nickname (dispatched t.events) t.session) (hx : t.Advances data a t')
    (hd : data = [] ∨ IsEnvelope data) :
    Tidy nickname (dispatched t'.events) t'.session := by
  have queue (before : t.session.phase.rank ≤ 2) :
      t.session.output ++ data = [] ∨ MadeOf IsEnvelope (t.session.output ++ data) := by
    rcases hd with rfl | spoken
    · rw [List.append_nil]
      exact h.queued before
    · rcases h.queued before with idle | queued
      · rw [idle]
        exact .inr (.single spoken)
      · exact .inr (queued.append (.single spoken))
  cases hx.fate with
  | ends gone sent =>
    rw [sent]
    exact h.ended gone
  | queues before here sent queued =>
    rw [sent]
    exact ⟨h.sent, hx.awake here h.awake, fun _ => queued ▸ queue before⟩
  | sends before here filled sent empty =>
    rw [sent]
    refine ⟨fun frame hf => ?_, hx.awake here h.awake, fun _ => .inl empty⟩
    rcases List.mem_append.mp hf with hf | hf
    · exact h.sent frame hf
    · rw [List.mem_singleton.mp hf]
      exact .inr ((queue before).resolve_left filled)

/-- The client is asked for its name while it is at leisure. -/
theorem Tidy.introduces (h : Tidy nickname (dispatched t.events) t.session)
    (hp : t.session.IsPoised) (hx : t.Advances (introduction nickname) a t')
    (free : AtLeisure t.session) :
    Tidy nickname (dispatched t'.events) t'.session := by
  have unwritten (before : t.session.phase.rank ≤ 2) : t.session.writing = false :=
    free.2 (Phase.canSend_of_rank free.1 before)
  cases hx.fate with
  | ends gone sent =>
    rw [sent]
    exact h.ended gone
  | queues before here sent queued idle =>
    -- A session that can send would have sent it.
    have can := Phase.canSend_of_rank (Nat.le_trans free.1 hx.forward) here
    have filled : t'.session.output ≠ [] := by
      rw [queued]
      exact List.append_ne_nil_of_right_ne_nil _ (introduction_ne_nil nickname)
    have writing := idle (hx.awake here h.awake can hx.poised.inHook filled)
    rw [unwritten before] at writing
    cases writing
  | sends before here filled sent empty =>
    have nothing : t.session.output = [] := by
      by_contra queued
      have writing := h.awake (Phase.canSend_of_rank free.1 before) hp.inHook queued
      rw [unwritten before] at writing
      cases writing
    rw [sent, nothing]
    refine ⟨fun frame hf => ?_, hx.awake here h.awake, fun _ => .inl empty⟩
    rcases List.mem_append.mp hf with hf | hf
    · exact h.sent frame hf
    · rw [List.mem_singleton.mp hf]
      exact .inl rfl

end Chat

theorem Handler.client_tidy (nickname : String) (depth : Nat) {s₀ : Session} (h₀ : s₀.Fresh)
    (shared : σ) (ms : List (Moment σ)) (ht : ∀ m ∈ ms, m.action.isTame = true)
    (hp : ∀ m ∈ ms, m.action.pushes = [] ∨ Chat.IsEnvelope m.action.pushes)
    (free : ∀ before m after, ms = before ++ m :: after → m.action.asksName = true →
      Chat.AtLeisure ((chatClient nickname).course (depth + 1) s₀ shared before).session) :
    Chat.Tidy nickname (dispatched ((chatClient nickname).course (depth + 1) s₀ shared ms).events)
      ((chatClient nickname).course (depth + 1) s₀ shared ms).session := by
  induction ms using List.reverseRecOn with
  | nil =>
    refine ⟨nofun, .of_still ?_, fun _ => .inl ?_⟩ <;> cases h₀ <;> rfl
  | append_singleton ms m ih =>
    have ht' : ∀ m' ∈ ms, m'.action.isTame = true := fun m' hm => ht m' (List.mem_append_left _ hm)
    have tidy := ih ht' (fun m' hm => hp m' (List.mem_append_left _ hm))
      fun before m' after he => free before m' (after ++ [m]) (by simp [he])
    obtain ⟨poised, -⟩ := (chatClient_replies nickname).course_batched depth h₀ shared ms ht'
    have advances := (chatClient_replies nickname).meet_advances depth poised (ht m (by simp))
    rw [Action.client_gift] at advances
    rw [course_snoc]
    split at advances
    · rename_i asked
      exact tidy.introduces poised advances (free ms m [] rfl asked)
    · exact tidy.speaks advances (hp m (by simp))

/-- Every frame that a chat client sends is made of whole introductions and envelopes. If it is asked
for its name at leisure only, each of its introductions is a frame of its own, and the other frames
are envelopes. -/
theorem Handler.client_speaks (nickname : String) (depth : Nat) {s₀ : Session} (h₀ : s₀.Fresh)
    (shared : σ) (ms : List (Moment σ)) (ht : ∀ m ∈ ms, m.action.isTame = true)
    (hp : ∀ m ∈ ms, m.action.pushes = [] ∨ Chat.IsEnvelope m.action.pushes) :
    (∀ frame ∈ dispatched ((chatClient nickname).course (depth + 1) s₀ shared ms).events,
      Chat.MadeOf (fun piece => piece = Chat.introduction nickname ∨ Chat.IsEnvelope piece)
        frame.data) ∧
    ((∀ before m after, ms = before ++ m :: after → m.action.asksName = true →
        Chat.AtLeisure ((chatClient nickname).course (depth + 1) s₀ shared before).session) →
      ∀ frame ∈ dispatched ((chatClient nickname).course (depth + 1) s₀ shared ms).events,
        frame.data = Chat.introduction nickname ∨ Chat.MadeOf Chat.IsEnvelope frame.data) := by
  refine ⟨fun frame hf => ?_, fun free => ?_⟩
  · obtain ⟨-, groups, made, filled, ordered, -⟩ :=
      (chatClient_replies nickname).course_batched depth h₀ shared ms ht
    obtain ⟨group, hg, he⟩ := List.mem_map.mp (made ▸ List.mem_map_of_mem hf)
    refine ⟨group, filled group hg, he, fun piece hpiece => ?_⟩
    have given := ordered.subset (List.mem_flatten.mpr ⟨group, hg, hpiece⟩)
    obtain ⟨gift, some_gift⟩ := List.mem_filter.mp given
    obtain ⟨m, hm, rfl⟩ := List.mem_map.mp gift
    rw [Action.client_gift] at some_gift ⊢
    split
    · exact .inl rfl
    · rename_i unasked
      rw [if_neg unasked] at some_gift
      exact .inr ((hp m hm).resolve_left (of_decide_eq_true some_gift))
  · exact (client_tidy nickname depth h₀ shared ms ht hp free).sent

/-- Two envelopes that a user called Ann may push. -/
def saidHi : Bytes := Bytes.ofString "inv:1:message:2:Ann:hi"

def saidYo : Bytes := Bytes.ofString "inv:1:message:2:Ann:yo"

theorem saidHi_isEnvelope : Chat.IsEnvelope saidHi := ⟨[⟨"hi", "Ann"⟩], by decide +kernel⟩

theorem saidYo_isEnvelope : Chat.IsEnvelope saidYo := ⟨[⟨"yo", "Ann"⟩], by decide +kernel⟩

/-- A client that is asked for its name first, and whose user speaks twice then. -/
def introducing : List (Moment Unit) :=
  [.connected, .complete (.handshaked (.ok ⟨101, []⟩)),
    .complete (.read (.ok ⟨.text, Chat.nameRequest⟩)), .push saidHi, .push saidYo,
    .complete (.written (.ok 15))].map .plain

theorem introducing_speaks :
    Session.Fresh (.client 0 {}) ∧ (∀ m ∈ introducing, m.action.isTame = true) ∧
      (∀ m ∈ introducing, m.action.pushes = [] ∨ Chat.IsEnvelope m.action.pushes) ∧
      dispatched ((Handler.chatClient "Ann").course 1 (.client 0 {}) () introducing).events =
        [⟨.text, Chat.introduction "Ann"⟩, ⟨.text, saidHi ++ saidYo⟩] ∧
      Chat.MadeOf Chat.IsEnvelope (saidHi ++ saidYo) := by
  have tame : ∀ m ∈ introducing, m.action.isTame = true := by decide +kernel
  have pushed : ∀ m ∈ introducing, m.action.pushes = [] ∨ m.action.pushes = saidHi ∨
      m.action.pushes = saidYo := by decide +kernel
  have envelopes : ∀ m ∈ introducing, m.action.pushes = [] ∨ Chat.IsEnvelope m.action.pushes := by
    intro m hm
    rcases pushed m hm with silent | said | said
    · exact .inl silent
    · exact .inr (said ▸ saidHi_isEnvelope)
    · exact .inr (said ▸ saidYo_isEnvelope)
  have sent : dispatched ((Handler.chatClient "Ann").course 1 (.client 0 {}) () introducing).events =
      [⟨.text, Chat.introduction "Ann"⟩, ⟨.text, saidHi ++ saidYo⟩] := by decide +kernel
  obtain ⟨-, apart⟩ :=
    Handler.client_speaks "Ann" 0 (.client 0 {}) () introducing tame envelopes
  have free := (forall_split_iff (fun before m => m.action.asksName = true →
    Chat.AtLeisure ((Handler.chatClient "Ann").course 1 (.client 0 {}) () before).session)
    introducing).mpr (by decide +kernel)
  have speaks := apart (fun before m after => free before m after) ⟨.text, saidHi ++ saidYo⟩
    (by rw [sent]; simp)
  exact ⟨.client 0 {}, tame, envelopes, sent, speaks.resolve_left (by decide +kernel)⟩

/-- A client whose user speaks before and after it is asked for its name. -/
def speakingUp : List (Moment Unit) :=
  [.connected, .complete (.handshaked (.ok ⟨101, []⟩)), .push saidHi,
    .complete (.read (.ok ⟨.text, Chat.nameRequest⟩)), .push saidYo,
    .complete (.written (.ok 22))].map .plain

def spokeUp : Turn Unit := (Handler.chatClient "Ann").course 2 (.client 0 {}) () speakingUp

/-- What is said while an introduction waits goes out behind it, in a frame that is neither an
introduction nor made of envelopes. -/
theorem spokeUp_merges :
    (Chat.joinNotice "Ann").validate = .ok () ∧ Chat.IsEnvelope saidHi ∧ Chat.IsEnvelope saidYo ∧
      Fair spokeUp.record ∧ Smooth spokeUp.record ∧
      dispatched spokeUp.events = [⟨.text, saidHi⟩, ⟨.text, Chat.introduction "Ann" ++ saidYo⟩] ∧
      Chat.introduction "Ann" ++ saidYo ≠ Chat.introduction "Ann" ∧
      ¬Chat.MadeOf Chat.IsEnvelope (Chat.introduction "Ann" ++ saidYo) := by
  refine ⟨?_, saidHi_isEnvelope, saidYo_isEnvelope, ?_, ?_, ?_, ?_, fun envelopes => ?_⟩
  iterate 5 decide +kernel
  have taken := envelopes.taken.1
  revert taken
  decide +kernel

end Parley

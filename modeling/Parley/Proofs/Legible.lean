import Parley.Network
import Parley.Proofs.Departure
import Parley.Proofs.Lettering

namespace Parley

open Chat

variable {σ : Type}

/-- A session that has text only queued, at once or by what waits to be done to it, and whose
handler queues nothing else. -/
structure Seat.Lettered (seat : Seat σ) : Prop where
  handler : seat.handler.Letters
  session : seat.session.Lettered
  commands : ∀ c ∈ seat.commands, c.isLettered = true
  told : ∀ event ∈ seat.trace, event.isLettered = true

namespace Seat.Lettered

variable {seat : Seat σ}

theorem post (h : seat.Lettered) {c : Command} (hc : c.isLettered = true) :
    (seat.post c).Lettered := by
  unfold Seat.post
  split
  · exact h
  · refine { h with commands := fun c' hm => ?_ }
    rcases List.mem_append.mp hm with hm | hm
    · exact h.commands c' hm
    · obtain rfl := List.mem_singleton.mp hm
      exact hc

theorem feed (h : seat.Lettered) (c : Completion) : (seat.feed c).Lettered := by
  unfold Seat.feed
  split
  · exact h
  · exact { h with }

theorem take (h : seat.Lettered) (wake : Wake) : (seat.take wake).Lettered := by
  cases wake with
  | command c => exact { h with commands := fun c' hm => h.commands c' (List.mem_of_mem_tail hm) }
  | _ => exact { h with }

theorem vacate (h : seat.Lettered) : seat.vacate.Lettered :=
  { h with commands := by simp [Seat.vacate] }

end Seat.Lettered

namespace Hall

def Lettered (h : Hall σ) : Prop := ∀ (i : SessionId) seat, h.seats[i]? = some seat → seat.Lettered

namespace Lettered

variable {h : Hall σ} {i : SessionId}

theorem modify (hl : h.Lettered) {f : Seat σ → Seat σ}
    (hf : ∀ seat, seat.Lettered → (f seat).Lettered) : (h.modifySeat i f).Lettered := by
  intro j seat hs
  rw [modifySeat_seat] at hs
  split at hs
  · obtain ⟨seat', found, rfl⟩ := Option.map_eq_some_iff.mp hs
    exact hf seat' (hl j seat' found)
  · exact hl j seat hs

theorem deliver {events : List Event} (told : ∀ event ∈ events, event.isLettered = true)
    (hl : h.Lettered) : (events.foldl Hall.deliver h).Lettered := by
  induction events generalizing h with
  | nil => exact hl
  | cons event events ih =>
    obtain ⟨first, rest⟩ := List.forall_mem_cons.mp told
    refine ih rest ?_
    cases event with
    | posted receiver command => exact hl.modify fun seat lettered => lettered.post first
    | _ => exact hl

/-- A turn that keeps its session to text keeps all of the hall to it. -/
theorem act (hl : h.Lettered) {f : Host σ → Turn σ → Turn σ}
    (hf : ∀ host t, host.Letters → t.Lettered → Bytes.isText t.draft.output = true →
      (f host t).Lettered) : (h.act i f).Lettered := by
  unfold Hall.act
  split
  · exact hl
  · rename_i seat hs
    have lettered := hl i seat hs
    have acted := hf _
      { now := h.now, session := { seat.session with reachable := seat.isHeld h.shared }
        shared := h.shared }
      (lettered.handler.host (h.nesting + 1))
      ⟨⟨lettered.session.queue, lettered.session.waits⟩, by simp⟩ (Bytes.isText_ofString "")
    refine deliver acted.told (modify (h := { h with shared := _ }) hl fun seat' old => ?_)
    refine { old with session := acted.session, told := fun event hm => ?_ }
    rcases List.mem_append.mp hm with hm | hm
    · exact old.told event hm
    · exact acted.told event hm

theorem enter (hl : h.Lettered) {session : Session} (hs : session.Lettered)
    {handler : Handler σ} (hh : handler.Letters) (listed : Bool) :
    (h.enter session handler listed).Lettered := by
  intro j seat found
  rw [Hall.enter] at found
  rcases List.mem_append.mp (List.mem_of_getElem? found) with old | new
  · obtain ⟨i, hi⟩ := List.getElem?_of_mem old
    exact hl i seat hi
  · obtain rfl := List.mem_singleton.mp new
    exact ⟨hh, ⟨hs.queue, hs.waits⟩, by simp, by simp⟩

theorem prime (hl : h.Lettered) {actions : List Action}
    (ha : ∀ a ∈ actions, a.isLettered = true) : (h.prime i actions).Lettered :=
  hl.act fun _ _ letters lettered drafted => (lettered.performedAll letters ha drafted).1

theorem stop (hl : h.Lettered) : (h.stop i).Lettered := by
  have acted := hl.act (i := i) (f := fun host t => t.perform host .finish)
    fun _ _ letters lettered _ => lettered.performed letters rfl
  exact acted.modify fun seat lettered => lettered.vacate

theorem await (hl : h.Lettered) : (h.await i).Lettered := by
  have pinned : (h.modifySeat i (·.repin h.shared)).Lettered :=
    hl.modify fun seat lettered => { lettered with }
  unfold Hall.await
  dsimp only
  split
  · exact pinned.stop
  · exact pinned

theorem fed (hl : h.Lettered) {wake : Wake}
    (hc : ∀ c, wake = .command c → c.isLettered = true) : (h.fed i wake).Lettered := by
  have taken := hl.modify (i := i) (f := (·.take wake)) fun seat lettered => lettered.take wake
  refine taken.act fun host t letters lettered _ => ?_
  cases wake with
  | completion c => exact lettered.performed letters rfl
  | lineLost => exact lettered.performed letters rfl
  | command c => exact lettered.performed letters (hc c rfl)
  | abandoned => exact lettered
  | timer => exact lettered.performed letters rfl

end Lettered

end Hall

/-- What happens to the sessions of a chat server, where nothing but text is queued on them from
outside. -/
def Stir.Chats : Stir Room → Prop
  | .enter session handler _ _ actions =>
    (∃ id config, session = .server id config) ∧ handler = .chatRoom ∧
      ∀ a ∈ actions, a.isLettered = true
  | .post _ command => command.isLettered = true
  | _ => True

namespace Bustle

variable {b : Bustle Room}

theorem stir_lettered (hl : b.hall.Lettered) {s : Stir Room} (hs : s.Chats) :
    (b.stir s).hall.Lettered := by
  cases s with
  | enter session handler listed handles actions =>
    obtain ⟨⟨id, config, rfl⟩, rfl, lettered⟩ := hs
    have new : (Session.server id config).Lettered :=
      ⟨Bytes.isText_ofString "", by rintro _ ⟨⟩ body ⟨⟩⟩
    have entered := (hl.enter new Handler.chatRoom_letters listed).modify
      (i := b.hall.seats.length) (f := ({ · with handles })) fun seat old => { old with }
    exact entered.prime lettered
  | feed i completion => exact hl.modify fun seat lettered => lettered.feed completion
  | hangUp i | hold i handles => exact hl.modify fun seat lettered => { lettered with }
  | post i command => exact hl.modify fun seat lettered => lettered.post hs
  | advance span => exact hl
  | turn i place =>
    simp only [stir]
    split
    · exact hl
    · rename_i wake taken
      obtain ⟨seat, seated, -, -, ready⟩ := taken_eq_some taken
      have fed : (b.hall.fed i wake).Lettered := hl.fed fun c hc =>
        (hl i seat seated).commands c (Seat.command_of_ready (hc ▸ ready))
      split
      · exact fed.stop
      · exact fed
  | look i =>
    simp only [stir]
    split
    · exact hl.await
    · exact hl

theorem course_lettered (hl : b.hall.Lettered) {stirs : List (Stir Room)}
    (hs : ∀ s ∈ stirs, s.Chats) : (b.course stirs).hall.Lettered := by
  induction stirs generalizing b with
  | nil => exact hl
  | cons s stirs ih =>
    obtain ⟨first, rest⟩ := List.forall_mem_cons.mp hs
    exact ih (stir_lettered hl first) rest

/-- Whatever the peers of a chat server send, its sessions write text, and no frame that they send
is refused for not being text. -/
theorem chat_writes_text (nesting limit : Nat) {stirs : List (Stir Room)}
    (hs : ∀ s ∈ stirs, s.Chats) {i : SessionId} {seat : Seat Room}
    (h : ((opening nesting { limit }).course stirs).seat? i = some seat) {kind : FrameKind}
    {data : Bytes} (written : .issued (.write kind data) ∈ seat.trace) :
    (∃ text, Bytes.text? data = some text) ∧
      Network.frameOf (.data kind data) = .ok (.data kind data) := by
  have started : (opening nesting ({ limit } : Room)).hall.Lettered := fun _ _ => nofun
  have lettered := course_lettered started hs i seat h
  have text : Bytes.isText data = true := lettered.told _ written
  refine ⟨Option.isSome_iff_exists.mp text, ?_⟩
  cases kind with
  | text => exact if_pos text
  | binary => rfl

/-- Somebody says something in a binary frame that goes on with what no text has in it. -/
def garbled : List (Stir Room) :=
  [.enter (.server 0 { frameMode := .fixed .text }) .chatRoom true 0 [.accept {}], .look 0,
    .feed 0 (.accepted (.ok ())), .turn 0 0, .look 0,
    .feed 0 (.written (.ok 18)), .turn 0 0, .look 0,
    .feed 0 (.read (.ok ⟨.binary, Bytes.ofString "inv:1:message:2:Ann:hi" ++ [255, 105]⟩)),
    .turn 0 0, .look 0]

theorem garbled_writes_text :
    (∀ s ∈ garbled, s.Chats) ∧ ∃ seat kind data,
      ((opening 99 { limit := 2 }).course garbled).seat? 0 = some seat ∧
        data = Bytes.ofString "inv:1:message:2:Ann:hi" ∧
        .issued (.write kind data) ∈ seat.trace ∧
        Network.frameOf (.data kind data) = .ok (.data kind data) := by
  have chats : ∀ s ∈ garbled, s.Chats := by
    have entered : Stir.Chats
        (.enter (.server 0 { frameMode := .fixed .text }) .chatRoom true 0 [.accept {}]) :=
      ⟨⟨0, _, rfl⟩, rfl, by simp [Action.isLettered]⟩
    refine List.forall_mem_cons.mpr ⟨entered, ?_⟩
    simp [Stir.Chats]
  obtain ⟨seat, kind, data, seated, said, written⟩ : ∃ seat kind data,
      ((opening 99 { limit := 2 }).course garbled).seat? 0 = some seat ∧
        data = Bytes.ofString "inv:1:message:2:Ann:hi" ∧
        seat.trace[6]? = some (.issued (.write kind data)) :=
    ⟨_, .text, _, rfl, rfl, rfl⟩
  have issued := List.mem_of_getElem? written
  exact ⟨chats, seat, kind, data, seated, said, issued,
    (chat_writes_text 99 2 chats seated issued).2⟩

end Bustle

end Parley

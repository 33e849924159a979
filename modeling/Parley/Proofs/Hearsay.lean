import Parley.Proofs.Welcome

namespace Parley

open Chat Envelope

variable {σ : Type}

def Action.posted? : Action → Option (SessionId × Command)
  | .post receiver command => some (receiver, command)
  | _ => none

def Event.posted? : Event → Option (SessionId × Command)
  | .posted receiver command => some (receiver, command)
  | _ => none

/-- What a turn posts on the way to another. -/
def Turn.Tells (t t' : Turn σ) (posts : List (SessionId × Command)) : Prop :=
  ∃ news, t'.events = t.events ++ news ∧ news.filterMap Event.posted? = posts

namespace Turn

theorem Tells.trans {t t' t'' : Turn σ} {posts posts' : List (SessionId × Command)}
    (h : t.Tells t' posts) (h' : t'.Tells t'' posts') : t.Tells t'' (posts ++ posts') := by
  obtain ⟨news, he, rfl⟩ := h
  obtain ⟨news', he', rfl⟩ := h'
  exact ⟨news ++ news', by rw [he', he, List.append_assoc], List.filterMap_append⟩

theorem perform_tells (host : Host σ) (t : Turn σ) {a : Action} (ha : a.isModest = true) :
    t.Tells (t.perform host a) a.posted?.toList := by
  cases a with
  | append | nextRead | keepalive => exact ⟨[], (List.append_nil _).symm, rfl⟩
  | post | warn | deliver | leaveMark | inspect => exact ⟨[_], rfl, rfl⟩
  | handshake target =>
    refine ⟨_, rfl, ?_⟩
    simp only [Session.handshake]
    split <;> rfl
  | read =>
    refine ⟨_, rfl, ?_⟩
    simp only [Session.read]
    split <;> rfl
  | _ => cases ha

theorem performAll_tells (host : Host σ) (actions : List Action)
    (ha : ∀ a ∈ actions, a.isModest = true) (t : Turn σ) :
    t.Tells (t.performAll host actions) (actions.filterMap Action.posted?) := by
  induction actions generalizing t with
  | nil => exact ⟨[], (List.append_nil _).symm, rfl⟩
  | cons a actions ih =>
    have first := t.perform_tells host (ha a List.mem_cons_self)
    have rest := ih (fun a' ha' => ha a' (List.mem_cons_of_mem a ha')) (t.perform host a)
    have split : (a :: actions).filterMap Action.posted? =
        a.posted?.toList ++ actions.filterMap Action.posted? := by
      cases hp : a.posted? <;> simp [hp]
    rw [split]
    exact first.trans rest

end Turn

namespace Handler.Modest

variable {h : Handler σ} (hm : h.Modest) (depth : Nat) (hook : Hook) (t : Turn σ)

include hm

theorem call_shared :
    ((h.host (depth + 1)).call hook t).shared = (h.react hook t.session t.shared).1 :=
  Turn.performAll_shared _ _ (hm hook t.session t.shared) _

theorem call_tells : t.Tells ((h.host (depth + 1)).call hook t)
    ((h.react hook t.session t.shared).2.filterMap Action.posted?) := by
  have entered : t.Tells (Turn.emit (.entered hook) { t.note (.called t.session hook) with
      shared := (h.react hook t.session t.shared).1 }) [] := ⟨[_], rfl, rfl⟩
  exact entered.trans (Turn.performAll_tells _ _ (hm hook t.session t.shared) _)

end Handler.Modest

namespace Chat.Room

variable (room : Room) (id : SessionId) {input : Bytes}

/-- What a session says reaches the others word for word. -/
theorem posted_postOthers (data : Bytes) :
    (room.postOthers id data).filterMap Action.posted? =
      (room.members.filter (·.id ≠ id)).map fun m => (m.id, .push data) := by
  rw [postOthers, List.filterMap_map, ← List.filterMap_eq_map]
  rfl

theorem posted_warnings (errors : List ParseError) :
    (errors.map fun e => Action.warn (.invalidChatMessage e)).filterMap Action.posted? = [] := by
  simp [Action.posted?, List.filterMap_map]

theorem appended_warnings (errors : List ParseError) :
    appended (errors.map fun e => Action.warn (.invalidChatMessage e)) = [] := by
  simp [appended, List.flatMap_map]

theorem hear_nothing (h : input.take (readAll input).offset = []) :
    (room.hear id input).1 = room ∧ appended (room.hear id input).2 = [] ∧
      (room.hear id input).2.filterMap Action.posted? = [] := by
  have nothing : (input.take (readAll input).offset).isEmpty = true := by rw [h]; rfl
  simp only [hear, nothing, if_true]
  refine ⟨trivial, ?_, ?_⟩
  · have warned := appended_warnings (readAll input).error.toList
    simp only [appended, List.flatMap_append] at warned ⊢
    rw [warned]
    rfl
  · rw [List.filterMap_append, posted_warnings]
    rfl

theorem hear_something (h : input.take (readAll input).offset ≠ []) :
    (room.hear id input).1 = room.record (readAll input).batches.flatten ∧
      appended (room.hear id input).2 = input.take (readAll input).offset ∧
      (room.hear id input).2.filterMap Action.posted? =
        (room.members.filter (·.id ≠ id)).map
          fun m => (m.id, .push (input.take (readAll input).offset)) := by
  have something : (input.take (readAll input).offset).isEmpty = false :=
    Bool.eq_false_iff.mpr fun he => h (List.isEmpty_iff.mp he)
  simp only [hear, something, Bool.false_eq_true, if_false]
  refine ⟨trivial, ?_, ?_⟩
  · have warned := appended_warnings (readAll input).error.toList
    have posts := room.appended_postOthers id (input.take (readAll input).offset)
    simp only [appended, List.flatMap_append, List.flatMap_cons] at warned posts ⊢
    rw [warned, posts, List.nil_append, List.append_nil]
  · rw [List.filterMap_append, posted_warnings]
    exact posted_postOthers room id _

/-- A frame that gives no name is heard as far as it is whole envelopes: the sender is sent this
front of it, as is every other member, and the messages that it is read as are recorded. Where no
envelope stands at the front, nothing of all this happens. -/
theorem room_hears_whole_envelopes (hi : introduced? input = none) (lent : Bytes) (depth : Nat)
    (t : Turn Room) :
    ∃ batches front, Front input batches front ∧
      (Walk.all front).map (·.1) = batches.map .ok ∧
      let t' := (Handler.chatRoom.host (depth + 1)).call (.message input lent) t
      t'.shared = (if front = [] then t.shared else t.shared.record batches.flatten) ∧
        t'.draft.output = t.draft.output ++ front ∧
        t.Tells t' (if front = [] then [] else
          (t.shared.members.filter (·.id ≠ t.session.id)).map fun m => (m.id, .push front)) := by
  have heard : Handler.chatRoom.react (.message input lent) t.session t.shared =
      t.shared.hear t.session.id input := by
    simp [Handler.chatRoom, receive, hi]
  have shared := Handler.chatRoom_modest.call_shared depth (.message input lent) t
  have drafted := (Handler.chatRoom_modest.call_drafts depth (.message input lent) t).draft
  have told := Handler.chatRoom_modest.call_tells depth (.message input lent) t
  rw [heard] at shared drafted told
  refine ⟨(readAll input).batches, input.take (readAll input).offset, readAll_front input,
    walk_front (readAll_front input), ?_⟩
  dsimp only
  by_cases nothing : input.take (readAll input).offset = []
  · obtain ⟨room, output, posts⟩ := t.shared.hear_nothing t.session.id nothing
    rw [if_pos nothing, if_pos nothing, shared, drafted, room, output, nothing]
    rw [posts] at told
    exact ⟨rfl, rfl, told⟩
  · obtain ⟨room, output, posts⟩ := t.shared.hear_something t.session.id nothing
    rw [if_neg nothing, if_neg nothing, shared, drafted, room, output]
    rw [posts] at told
    exact ⟨rfl, rfl, told⟩

/-- An envelope, and behind it one that breaks off in its second message. -/
def mumbled : Bytes :=
  Bytes.ofString "inv:1:message:2:Ann:hiinv:2:message:3:Ann:yesmessage:9:Ann:but"

/-- Ann in a room with Bob and Cid. -/
def gathered : Turn Room :=
  { now := 0
    session := .server 0 {}
    shared := { limit := 2, members := [⟨0, "Ann"⟩, ⟨1, "Bob"⟩, ⟨2, "Cid"⟩] } }

theorem mumbled_heard :
    introduced? mumbled = none ∧
      let t' := (Handler.chatRoom.host 1).call (.message mumbled []) gathered
      t'.shared.history = [⟨"hi", "Ann"⟩] ∧
        t'.draft.output = Bytes.ofString "inv:1:message:2:Ann:hi" ∧
        gathered.Tells t' [(1, .push (Bytes.ofString "inv:1:message:2:Ann:hi")),
          (2, .push (Bytes.ofString "inv:1:message:2:Ann:hi"))] := by
  have nameless : introduced? mumbled = none := by decide +kernel
  obtain ⟨batches, front, -, read, shared, output, told⟩ :=
    room_hears_whole_envelopes nameless [] 0 gathered
  have said : ((Handler.chatRoom.host 1).call (.message mumbled []) gathered).draft.output =
      Bytes.ofString "inv:1:message:2:Ann:hi" := by decide +kernel
  obtain rfl : Bytes.ofString "inv:1:message:2:Ann:hi" = front := said.symm.trans output
  have batch : batches = [[⟨"hi", "Ann"⟩]] := by
    have walked : (Walk.all (Bytes.ofString "inv:1:message:2:Ann:hi")).map (·.1) =
        [[⟨"hi", "Ann"⟩]].map .ok := by decide +kernel
    exact (List.map_injective_iff.mpr fun _ _ => Except.ok.inj) (read.symm.trans walked)
  rw [if_neg (by decide +kernel)] at shared told
  refine ⟨nameless, ?_, said, told⟩
  rw [shared, batch]
  rfl

end Chat.Room

end Parley

import Parley.Proofs.Hearsay

namespace Parley.Chat

open Envelope

/-- The name that a call gives, if it answers the name request. -/
def Call.name? (c : Call) : Option String :=
  match c.hook with
  | .message input _ => introduced? input
  | _ => none

/-- A call that takes its session out of the room: a close frame, or the end of its service. -/
def Call.ends (c : Call) : Bool :=
  match c.hook with
  | .close _ | .finish => true
  | _ => false

/-- A session has come into the room or has gone out of it, under a name. -/
inductive Crossing
  | joined (name : String)
  | left (name : String)
  deriving DecidableEq, Repr

namespace Crossing

def isJoin : Crossing → Bool
  | joined _ => true
  | left _ => false

@[simp] theorem isJoin_joined (name : String) : (joined name).isJoin = true := rfl

@[simp] theorem isJoin_left (name : String) : (left name).isJoin = false := rfl

/-- Joins and leaves by turns, from a join on, each leave under the name of the join before it. The
index is the name of a last join that no leave has followed. -/
inductive Alternating : Option String → List Crossing → Prop
  | fresh : Alternating none []
  | joins {past : List Crossing} (h : Alternating none past) (name : String) :
      Alternating (some name) (past ++ [.joined name])
  | leaves {past : List Crossing} {name : String} (h : Alternating (some name) past) :
      Alternating none (past ++ [.left name])

theorem Alternating.getLast?_eq_joined_iff {present : Option String} {past : List Crossing}
    (h : Alternating present past) (name : String) :
    past.getLast? = some (.joined name) ↔ present = some name := by
  cases h <;> simp

end Crossing

namespace Room

/-- Whether a call brings its session into the room or takes it out, going by the notice that an
answer to the name request, a close frame or an end puts on record. -/
def crossing? (room : Room) (c : Call) : Option Crossing :=
  if c.name?.isSome then (room.news c).head?.map (.joined ·.nickname)
  else if c.ends then (room.news c).head?.map (.left ·.nickname)
  else none

/-- The name under which a session is a member, if it is one. -/
def nickname? (room : Room) (id : SessionId) : Option String :=
  (room.member? id).map (·.nickname)

/-- All comings and goings of a run, in order, each with the session. -/
def crossings : Room → List Call → List (SessionId × Crossing)
  | _, [] => []
  | room, c :: calls =>
    ((room.crossing? c).map (c.session.id, ·)).toList ++ crossings (room.answer c).1 calls

/-- Those of one session. -/
def own (id : SessionId) (book : List (SessionId × Crossing)) : List Crossing :=
  (book.filter (·.1 = id)).map (·.2)

theorem crossings_snoc (room : Room) (calls : List Call) (c : Call) :
    room.crossings (calls ++ [c]) =
      room.crossings calls ++ (((room.after calls).crossing? c).map (c.session.id, ·)).toList := by
  induction calls generalizing room with
  | nil => simp [crossings, after]
  | cons c' calls ih =>
    rw [List.cons_append, crossings, ih, crossings, List.append_assoc, after_cons]

section

variable {room : Room} {c : Call}

theorem answer_name {name : String} (h : c.name? = some name) (room : Room) :
    room.answer c = room.join c.session name := by
  obtain ⟨session, hook⟩ := c
  cases hook with
  | message input output =>
    have said : introduced? input = some name := h
    simp [answer, Handler.chatRoom, receive, said]
  | _ => cases h

theorem answer_ends (h : c.ends = true) (room : Room) :
    room.answer c = room.leave c.session.id := by
  obtain ⟨session, hook⟩ := c
  cases hook with
  | close | finish => rfl
  | _ => cases h

theorem name?_of_ends (h : c.ends = true) : c.name? = none := by
  obtain ⟨session, hook⟩ := c
  cases hook with
  | close | finish => rfl
  | _ => cases h

/-- Whoever neither gives its name nor goes leaves everybody where they are. -/
theorem answer_indoors (hn : c.name? = none) (he : c.ends = false) :
    (room.answer c).1.members = room.members := by
  obtain ⟨session, hook⟩ := c
  cases hook with
  | message input output =>
    have nameless : introduced? input = none := hn
    have heard : room.answer ⟨session, .message input output⟩ = room.hear session.id input := by
      simp [answer, Handler.chatRoom, receive, nameless]
    rw [heard, hear]
    split <;> rfl
  | close | finish => cases he
  | _ => rfl

theorem joins_iff {name : String} (hn : c.name? = some name) :
    room.Joins c name ↔ c.session.reachable = true ∧ (joinNotice name).validate = .ok () ∧
      room.hasMember c.session.id = false := by
  constructor
  · intro h
    exact ⟨h.reachable, h.valid, h.new⟩
  · rintro ⟨reachable, valid, new⟩
    obtain ⟨session, hook⟩ := c
    cases hook with
    | message input output => exact ⟨⟨input, output, rfl, hn⟩, reachable, valid, new⟩
    | _ => cases hn

theorem Joins.name?_eq {name : String} (h : room.Joins c name) : c.name? = some name := by
  obtain ⟨input, output, hook, said⟩ := h.said
  rw [Call.name?, hook]
  exact said

/-- A name that does not bring its session in is lost on the room. One that is unfit is asked for
again, of the session that gave it. -/
theorem answer_refused {name : String} (hn : c.name? = some name) (h : ¬room.Joins c name) :
    room.answer c = (room, []) ∨
      (joinNotice name).validate ≠ .ok () ∧ room.answer c = (room, [.append nameRequest]) := by
  rw [answer_name hn, join]
  cases hr : c.session.reachable with
  | false => exact .inl rfl
  | true =>
    cases hv : (joinNotice name).validate with
    | error e => exact .inr ⟨by simp, rfl⟩
    | ok =>
      obtain ⟨notice, written⟩ := encode_one hv
      have member : room.hasMember c.session.id = true := by
        by_contra new
        exact h ((joins_iff hn).mpr ⟨hr, hv, Bool.eq_false_iff.mpr new⟩)
      left
      simp [Except.toBool, written, member]

theorem crossing?_joined {name : String} (h : room.Joins c name) :
    room.crossing? c = some (.joined name) := by
  have elsewhere : Joins { room with limit := 0, history := [] } c name :=
    ⟨h.said, h.reachable, h.valid, h.new⟩
  have news : room.news c = [joinNotice name] := elsewhere.history
  simp [crossing?, h.name?_eq, news, joinNotice]

theorem crossing?_refused {name : String} (hn : c.name? = some name) (h : ¬room.Joins c name) :
    room.crossing? c = none := by
  have elsewhere : ¬Joins { room with limit := 0, history := [] } c name := by
    intro joins
    exact h ⟨joins.said, joins.reachable, joins.valid, joins.new⟩
  have news : room.news c = [] := by
    rw [Room.news]
    rcases answer_refused hn elsewhere with same | ⟨-, same⟩ <;> rw [same]
  simp [crossing?, hn, news]

theorem crossing?_left (he : c.ends = true) {m : Member}
    (hm : room.member? c.session.id = some m) :
    room.crossing? c = some (.left m.nickname) := by
  have news : room.news c = [leaveNotice m.nickname] := by
    have there : member? { room with limit := 0, history := [] } c.session.id = some m := hm
    rw [Room.news, answer_ends he, leave_member there]
    rfl
  simp [crossing?, name?_of_ends he, he, news, leaveNotice]

theorem crossing?_stranger (he : c.ends = true) (h : room.member? c.session.id = none) :
    room.crossing? c = none := by
  have news : room.news c = [] := by
    have away : member? { room with limit := 0, history := [] } c.session.id = none := h
    rw [Room.news, answer_ends he, leave_stranger away]
  simp [crossing?, name?_of_ends he, he, news]

/-- What a call may do to a room, as its crossing tells. -/
inductive Passes (room : Room) (c : Call) : Prop
  | joins (name : String) (crossing : room.crossing? c = some (.joined name))
      (joins : room.Joins c name)
      (members : (room.answer c).1.members = room.members ++ [⟨c.session.id, name⟩])
  | leaves (name : String) (crossing : room.crossing? c = some (.left name)) (ends : c.ends = true)
      (member : room.member? c.session.id = some ⟨c.session.id, name⟩)
      (members : (room.answer c).1.members = room.members.filter (·.id ≠ c.session.id))
  | stays (crossing : room.crossing? c = none)
      (members : (room.answer c).1.members = room.members)

theorem passes (room : Room) (c : Call) : room.Passes c := by
  cases hn : c.name? with
  | some name =>
    by_cases joins : room.Joins c name
    · obtain ⟨notice, answer⟩ := joins.answer_eq
      exact .joins name (crossing?_joined joins) joins (by rw [answer])
    · refine .stays (crossing?_refused hn joins) ?_
      rcases answer_refused hn joins with same | ⟨-, same⟩ <;> rw [same]
  | none =>
    cases he : c.ends with
    | true =>
      cases hm : room.member? c.session.id with
      | some m =>
        obtain ⟨id, name⟩ := m
        obtain rfl := member?_id hm
        exact .leaves name (crossing?_left he hm) he hm (by rw [answer_ends he, leave_member hm])
      | none =>
        exact .stays (crossing?_stranger he hm) (by rw [answer_ends he, leave_stranger hm])
    | false => exact .stays (by simp [crossing?, hn, he]) (answer_indoors hn he)

theorem crossing?_eq_joined_iff {name : String} :
    room.crossing? c = some (.joined name) ↔ room.Joins c name := by
  constructor
  · intro h
    cases passes room c with
    | joins name' crossing joins =>
      obtain rfl : name' = name := by simpa using crossing.symm.trans h
      exact joins
    | leaves _ crossing | stays crossing => simp [crossing] at h
  · exact crossing?_joined

theorem crossing?_eq_left_iff {name : String} :
    room.crossing? c = some (.left name) ↔
      c.ends = true ∧ room.nickname? c.session.id = some name := by
  constructor
  · intro h
    cases passes room c with
    | leaves name' crossing ends member =>
      obtain rfl : name' = name := by simpa using crossing.symm.trans h
      exact ⟨ends, by rw [nickname?, member]; rfl⟩
    | joins _ crossing | stays crossing => simp [crossing] at h
  · rintro ⟨ends, member⟩
    obtain ⟨m, there, rfl⟩ := Option.map_eq_some_iff.mp member
    exact crossing?_left ends there

/-- Where an answer or an end crosses nothing, the room does nothing, or asks again for a name. -/
theorem answer_uncrossed (door : c.name?.isSome = true ∨ c.ends = true)
    (h : room.crossing? c = none) :
    room.answer c = (room, []) ∨
      ∃ name, c.name? = some name ∧ (joinNotice name).validate ≠ .ok () ∧
        room.answer c = (room, [.append nameRequest]) := by
  cases hn : c.name? with
  | some name =>
    have refused : ¬room.Joins c name := by
      intro joins
      simp [crossing?_joined joins] at h
    exact (answer_refused hn refused).imp_right fun again => ⟨name, rfl, again⟩
  | none =>
    have ends : c.ends = true := by simpa [hn] using door
    cases hm : room.member? c.session.id with
    | some m => simp [crossing?_left ends hm] at h
    | none => exact .inl (by rw [answer_ends ends, leave_stranger hm])

end

theorem nickname?_isSome (room : Room) (id : SessionId) :
    (room.nickname? id).isSome = room.hasMember id := by
  simp [nickname?, hasMember]

section

variable {room room' : Room} {id sender : SessionId}

theorem nickname?_congr (h : room'.members = room.members) :
    room'.nickname? id = room.nickname? id := by
  rw [nickname?, member?, h]
  rfl

theorem nickname?_append {name : String} (new : room.hasMember sender = false)
    (h : room'.members = room.members ++ [⟨sender, name⟩]) :
    room'.nickname? id = if id = sender then some name else room.nickname? id := by
  rw [nickname?, nickname?, member?, h, List.find?_append, member?]
  by_cases own : id = sender
  · subst own
    have none_there : room.members.find? (·.id = id) = none := by
      simpa [hasMember, member?] using new
    simp [none_there]
  · simp [own, Ne.symm own]

theorem nickname?_filter (h : room'.members = room.members.filter (·.id ≠ sender)) :
    room'.nickname? id = if id = sender then none else room.nickname? id := by
  rw [nickname?, nickname?, member?, h, List.find?_filter, member?]
  by_cases own : id = sender
  · subst own
    simp
  · rw [if_neg own]
    congr 2
    funext m
    by_cases hm : m.id = id
    · simp [hm, own]
    · simp [hm]

end

theorem own_append (id : SessionId) (book book' : List (SessionId × Crossing)) :
    own id (book ++ book') = own id book ++ own id book' := by
  simp [own]

/-- A session's comings and goings alternate, and the last of them tells whether it is a member. -/
theorem crossings_alternate (limit : Nat) (calls : List Call) (id : SessionId) :
    Crossing.Alternating ((after { limit } calls).nickname? id)
      (own id (crossings { limit } calls)) := by
  induction calls using List.reverseRecOn with
  | nil => exact .fresh
  | append_singleton calls c ih =>
    rw [after_snoc, crossings_snoc, own_append]
    cases passes (after { limit } calls) c with
    | joins name crossing joins members =>
      rw [nickname?_append joins.new members, crossing]
      by_cases here : id = c.session.id
      · subst here
        have away : (after { limit } calls).nickname? c.session.id = none := by
          rw [← Option.not_isSome_iff_eq_none, nickname?_isSome, joins.new]
          simp
        rw [away] at ih
        simpa [own] using ih.joins name
      · simpa [own, here, Ne.symm here] using ih
    | leaves name crossing ends member members =>
      rw [nickname?_filter members, crossing]
      by_cases here : id = c.session.id
      · subst here
        rw [nickname?, member] at ih
        simpa [own] using ih.leaves
      · simpa [own, here, Ne.symm here] using ih
    | stays crossing members =>
      rw [nickname?_congr members, crossing]
      simpa [own] using ih

/-- As many sessions are members as have come in and not gone out. -/
theorem crossings_count (limit : Nat) (calls : List Call) :
    (after { limit } calls).members.length + (crossings { limit } calls).countP (!·.2.isJoin) =
      (crossings { limit } calls).countP (·.2.isJoin) := by
  induction calls using List.reverseRecOn with
  | nil => rfl
  | append_singleton calls c ih =>
    rw [after_snoc, crossings_snoc, List.countP_append, List.countP_append]
    cases passes (after { limit } calls) c with
    | joins name crossing joins members =>
      rw [members, crossing, List.length_append]
      simp only [Option.map_some, Option.toList_some, List.countP_singleton, List.length_singleton,
        Crossing.isJoin_joined, Bool.not_true, Bool.false_eq_true, if_true, if_false]
      omega
    | leaves name crossing ends member members =>
      have once : (after { limit } calls).members.countP (·.id = c.session.id) = 1 := by
        have distinct := ((Sound.empty limit).after calls).distinct
        have listed := List.mem_map_of_mem (f := (·.id)) (List.mem_of_find?_eq_some member)
        have count := (distinct.count (a := c.session.id)).trans (if_pos listed)
        rwa [List.count, List.countP_map] at count
      have split := List.length_eq_countP_add_countP (fun m : Member => m.id = c.session.id)
        (l := (after { limit } calls).members)
      rw [members, crossing, ← List.countP_eq_length_filter]
      simp only [decide_eq_true_eq, decide_not, Option.map_some, Option.toList_some,
        List.countP_singleton, Crossing.isJoin_left, Bool.not_false, Bool.false_eq_true, if_true,
        if_false] at split ⊢
      omega
    | stays crossing members =>
      rw [members, crossing]
      simpa using ih

/-- Each of the others, and nobody else, is told once who leaves. -/
theorem leave_posts {room : Room} (h : room.Sound) {id : SessionId} {m : Member}
    (hm : room.member? id = some m) :
    ∃ data, ∃ others : List SessionId, encode [leaveNotice m.nickname] = .ok data ∧ others.Nodup ∧
      (∀ i, i ∈ others ↔ i ≠ id ∧ room.hasMember i = true) ∧
      (room.leave id).2 = others.map fun i => .post i (.push data) := by
  obtain ⟨data, written⟩ :=
    encode_one (leaveNotice_valid (h.named m (List.mem_of_find?_eq_some hm)))
  have distinct : ((room.members.filter (·.id ≠ id)).map (·.id)).Nodup :=
    h.distinct.sublist (List.filter_sublist.map _)
  refine ⟨data, (room.members.filter (·.id ≠ id)).map (·.id), written, distinct, ?_, ?_⟩
  · intro i
    simp only [hasMember_iff, List.mem_map, List.mem_filter, decide_eq_true_eq]
    constructor
    · rintro ⟨m', ⟨there, other⟩, rfl⟩
      exact ⟨other, m', there, rfl⟩
    · rintro ⟨other, m', there, rfl⟩
      exact ⟨m', ⟨there, other⟩, rfl⟩
  · rw [leave_member hm, farewell, written, List.map_map]
    dsimp only [postOthers]
    rw [List.filter_filter]
    simp only [Bool.and_self]
    rfl

/-- However the sessions of a room come, go and talk, and however often they repeat themselves: each
joins and leaves by turns, a join first; it is a member exactly when it joined last; and as many are
members as joined and did not leave. A call is a join if it gives a fit name for a session that can
be posted to and is no member, and a leave if it ends one whose last join was under the name that
the leave carries. A leave tells each other member so in one envelope of one notice, and nobody
else. An answer or an end that is neither leaves the room as it is and posts nothing to anyone; all
that may come of it is that an unfit name is asked for again. -/
theorem joins_and_leaves_balance (limit : Nat) (calls : List Call) :
    let room := after { limit } calls
    let book := crossings { limit } calls
    (∀ id, Crossing.Alternating (room.nickname? id) (own id book)) ∧
      (∀ id, room.hasMember id = true ↔ ∃ name, (own id book).getLast? = some (.joined name)) ∧
      room.members.length + book.countP (!·.2.isJoin) = book.countP (·.2.isJoin) ∧
      ∀ c : Call,
        (∀ name, room.crossing? c = some (.joined name) ↔ room.Joins c name) ∧
        (∀ name, room.crossing? c = some (.left name) ↔
          c.ends = true ∧ (own c.session.id book).getLast? = some (.joined name)) ∧
        (∀ name, room.crossing? c = some (.left name) →
          ∃ data, ∃ others : List SessionId, encode [leaveNotice name] = .ok data ∧ others.Nodup ∧
            (∀ id, id ∈ others ↔ id ≠ c.session.id ∧ room.hasMember id = true) ∧
            (room.answer c).2 = others.map fun id => .post id (.push data)) ∧
        (c.name?.isSome = true ∨ c.ends = true → room.crossing? c = none →
          (room.answer c).1 = room ∧ (room.answer c).2.filterMap Action.posted? = [] ∧
            ((room.answer c).2 = [] ∨
              ∃ name, c.name? = some name ∧ (joinNotice name).validate ≠ .ok () ∧
                (room.answer c).2 = [.append nameRequest])) := by
  have sound := (Sound.empty limit).after calls
  have alternate := crossings_alternate limit calls
  have last (id : SessionId) (name : String) :=
    (alternate id).getLast?_eq_joined_iff name
  refine ⟨alternate, ?_, crossings_count limit calls, ?_⟩
  · intro id
    simp only [last, ← nickname?_isSome, Option.isSome_iff_exists]
  intro c
  refine ⟨fun name => crossing?_eq_joined_iff, ?_, ?_, ?_⟩
  · intro name
    rw [last, crossing?_eq_left_iff]
  · intro name left
    obtain ⟨ends, member⟩ := crossing?_eq_left_iff.mp left
    obtain ⟨m, there, rfl⟩ := Option.map_eq_some_iff.mp member
    rw [answer_ends ends]
    exact leave_posts sound there
  · intro door none
    rcases answer_uncrossed door none with same | ⟨name, gave, unfit, same⟩
    · rw [same]
      exact ⟨rfl, rfl, .inl rfl⟩
    · rw [same]
      exact ⟨rfl, rfl, .inr ⟨name, gave, unfit, rfl⟩⟩

/-- A second name does not count while the first holds, nor does a second end. -/
example : crossings { limit := 0 } [speaks 0 "My name is Ann", speaks 0 "My name is Bob",
      ⟨.server 0 {}, .close []⟩, ⟨.server 0 {}, .finish⟩, speaks 0 "My name is A:b",
      speaks 0 "My name is Bob"] =
    [(0, .joined "Ann"), (0, .left "Ann"), (0, .joined "Bob")] := by
  decide +kernel

end Room

end Parley.Chat

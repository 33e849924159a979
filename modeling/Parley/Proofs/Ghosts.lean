import Parley.Proofs.Conduct
import Parley.Proofs.Departure

namespace Parley

open Chat

/-- The handler has been told that its session is over. -/
def Event.isEnd : Event → Bool
  | .entered .finish => true
  | _ => false

theorem Event.isEnd_of_discreet {e : Event} (h : e.isDiscreet = true) : e.isEnd = false := by
  cases e with
  | entered hook => cases hook <;> first | rfl | cases h
  | _ => rfl

theorem Event.countP_isEnd {events : List Event} (h : ∀ e ∈ events, e.isDiscreet = true) :
    events.countP Event.isEnd = 0 := by
  rw [List.countP_eq_zero]
  intro e he
  simp [Event.isEnd_of_discreet (h e he)]

/-- Nobody becomes a member but by a call of its own. -/
theorem Chat.Room.member_of_after {calls : List Call} {id : SessionId}
    (own : ∀ c ∈ calls, c.session.id = id) {room : Room} {i : SessionId}
    (hm : (room.after calls).hasMember i = true) : room.hasMember i = true ∨ i = id := by
  induction calls generalizing room with
  | nil => exact .inl hm
  | cons c calls ih =>
    rcases ih (fun c' hc => own c' (List.mem_cons_of_mem c hc)) hm with member | rfl
    · by_cases hi : i = c.session.id
      · exact .inr (hi.trans (own c List.mem_cons_self))
      · exact .inl ((answer_member c hi).mp member)
    · exact .inr rfl

/-- Who leaves is no member, and nobody else becomes one. -/
theorem Chat.Room.member_of_leave {room : Room} {id i : SessionId}
    (hm : (room.leave id).1.hasMember i = true) : i ≠ id ∧ room.hasMember i = true := by
  cases there : room.member? id with
  | none =>
    rw [leave_stranger there] at hm
    refine ⟨?_, hm⟩
    rintro rfl
    rw [hasMember, there] at hm
    cases hm
  | some m =>
    rw [leave_member there] at hm
    simp only [hasMember_iff, List.mem_filter, decide_eq_true_eq] at hm
    obtain ⟨m, ⟨hm, other⟩, rfl⟩ := hm
    exact ⟨other, hasMember_iff.mpr ⟨m, hm, rfl⟩⟩

namespace Seat

/-- A session of the room whose driver runs. -/
structure Resident (i : SessionId) (seat : Seat Room) : Prop where
  id : seat.session.id = i
  handler : seat.handler = .chatRoom
  listed : seat.listed = true
  running : seat.stopped = false
  live : seat.session.ended = false
  waits : seat.session.Spares
  commands : ∀ c ∈ seat.commands, c.spares = true
  unheard : seat.trace.countP Event.isEnd = 0

/-- What is told of a session once its driver has stopped. -/
def fate (seat : Seat Room) : Bool × Bool × Bool × Nat :=
  (seat.stopped, seat.listed, seat.session.ended, seat.trace.countP Event.isEnd)

/-- A session whose driver has stopped: its handler heard of it once, and it is not listed. -/
def Departed (seat : Seat Room) : Prop := seat.fate = (true, false, true, 1)

theorem Departed.vacate {seat : Seat Room} (h : seat.Departed) : seat.vacate.Departed := by
  simp only [Departed, fate, Prod.mk.injEq] at h ⊢
  exact ⟨rfl, rfl, h.2.2⟩

theorem Resident.not_departed {i : SessionId} {seat : Seat Room} (h : seat.Resident i) :
    ¬seat.Departed := by
  intro gone
  have stopped : seat.stopped = true := congrArg Prod.fst gone
  rw [h.running] at stopped
  cases stopped

theorem Resident.post {i : SessionId} {seat : Seat Room} (h : seat.Resident i) {c : Command}
    (hc : c.spares = true) : (seat.post c).Resident i := by
  unfold Seat.post
  split
  · exact h
  · refine { h with commands := fun c' hm => ?_ }
    rcases List.mem_append.mp hm with hm | hm
    · exact h.commands c' hm
    · obtain rfl := List.mem_singleton.mp hm
      exact hc

theorem fate_post (c : Command) (seat : Seat Room) : (seat.post c).fate = seat.fate := by
  unfold Seat.post
  split <;> rfl

theorem fate_feed (c : Completion) (seat : Seat Room) : (seat.feed c).fate = seat.fate := by
  unfold Seat.feed
  split <;> rfl

theorem Resident.feed {i : SessionId} {seat : Seat Room} (h : seat.Resident i) (c : Completion) :
    (seat.feed c).Resident i := by
  unfold Seat.feed
  split
  · exact h
  · exact { h with }

theorem Resident.take {i : SessionId} {seat : Seat Room} (h : seat.Resident i) (wake : Wake) :
    (seat.take wake).Resident i := by
  cases wake with
  | command c =>
    refine { h with commands := fun c' hm => h.commands c' (List.mem_of_mem_tail hm) }
  | _ => exact { h with }

end Seat

namespace Hall

def Resident (h : Hall Room) (i : SessionId) : Prop :=
  ∃ seat, h.seats[i]? = some seat ∧ seat.Resident i

def Departed (h : Hall Room) (i : SessionId) : Prop :=
  ∃ seat, h.seats[i]? = some seat ∧ seat.Departed

/-- Whoever has a seat is there or gone, and the room knows only those who are there. -/
structure Tenanted (h : Hall Room) : Prop where
  seated : ∀ i, i < h.seats.length → h.Resident i ∨ h.Departed i
  members : ∀ i, h.shared.hasMember i = true → h.Resident i

/-- What happens to a hall in order: nobody comes back. -/
structure Goes (h h' : Hall Room) : Prop where
  tenanted : h'.Tenanted
  departed : ∀ i, h.Departed i → h'.Departed i

theorem Goes.refl {h : Hall Room} (ht : h.Tenanted) : h.Goes h := ⟨ht, fun _ gone => gone⟩

theorem Goes.trans {h h' h'' : Hall Room} (hg : h.Goes h') (hg' : h'.Goes h'') : h.Goes h'' :=
  ⟨hg'.tenanted, fun i gone => hg'.departed i (hg.departed i gone)⟩

variable {h h' : Hall Room} {i j : SessionId}

theorem Resident.not_departed (hr : h.Resident i) : ¬h.Departed i := by
  obtain ⟨seat, hs, resident⟩ := hr
  rintro ⟨seat', hs', departed⟩
  cases hs.symm.trans hs'
  exact resident.not_departed departed

theorem Tenanted.resident (ht : h.Tenanted) {seat : Seat Room} (hs : h.seats[i]? = some seat)
    (running : seat.stopped = false) : seat.Resident i := by
  obtain ⟨seat', hs', resident⟩ | ⟨seat', hs', departed⟩ :=
    ht.seated i (List.getElem?_eq_some_iff.mp hs).1
  · cases hs.symm.trans hs'
    exact resident
  · cases hs.symm.trans hs'
    cases running.symm.trans (congrArg Prod.fst departed)

theorem Tenanted.departed (ht : h.Tenanted) {seat : Seat Room} (hs : h.seats[i]? = some seat)
    (stopped : seat.stopped = true) : seat.Departed := by
  obtain ⟨seat', hs', resident⟩ | ⟨seat', hs', departed⟩ :=
    ht.seated i (List.getElem?_eq_some_iff.mp hs).1
  · cases hs.symm.trans hs'
    cases stopped.symm.trans resident.running
  · cases hs.symm.trans hs'
    exact departed

section

variable {f : Seat Room → Seat Room}

theorem Resident.modify (hr : h.Resident j)
    (hf : i = j → ∀ seat, seat.Resident j → (f seat).Resident j) :
    (h.modifySeat i f).Resident j := by
  obtain ⟨seat, hs, resident⟩ := hr
  by_cases hij : i = j
  · refine ⟨f seat, ?_, hf hij seat resident⟩
    rw [hij, modifySeat_self, hs, Option.map_some]
  · exact ⟨seat, by rw [modifySeat_other _ hij, hs], resident⟩

theorem Departed.modify (hd : h.Departed j)
    (hf : i = j → ∀ seat : Seat Room, seat.Departed → (f seat).Departed) :
    (h.modifySeat i f).Departed j := by
  obtain ⟨seat, hs, departed⟩ := hd
  by_cases hij : i = j
  · refine ⟨f seat, ?_, hf hij seat departed⟩
    rw [hij, modifySeat_self, hs, Option.map_some]
  · exact ⟨seat, by rw [modifySeat_other _ hij, hs], departed⟩

/-- A change at one seat that lets a resident be a resident and the gone be gone. -/
theorem modifySeat_goes (ht : h.Tenanted)
    (hr : h.Resident i → ∀ seat, seat.Resident i → (f seat).Resident i)
    (hd : h.Departed i → ∀ seat : Seat Room, seat.Departed → (f seat).Departed) :
    h.Goes (h.modifySeat i f) := by
  have resident (j : SessionId) (here : h.Resident j) : (h.modifySeat i f).Resident j := by
    refine here.modify ?_
    rintro rfl
    exact hr here
  have departed (j : SessionId) (gone : h.Departed j) : (h.modifySeat i f).Departed j := by
    refine gone.modify ?_
    rintro rfl
    exact hd gone
  refine ⟨⟨fun j hj => ?_, fun j member => resident j (ht.members j member)⟩, departed⟩
  rw [modifySeat, List.length_modify] at hj
  exact (ht.seated j hj).imp (resident j) (departed j)

end

theorem shared_goes (ht : h.Tenanted) {room : Room}
    (hm : ∀ j, room.hasMember j = true → h.Resident j) : h.Goes { h with shared := room } :=
  ⟨⟨ht.seated, hm⟩, fun _ gone => gone⟩

/-- What a turn tells others that ends nobody. -/
theorem deliver_goes {events : List Event} (discreet : ∀ e ∈ events, e.isDiscreet = true)
    (ht : h.Tenanted) : h.Goes (events.foldl deliver h) := by
  induction events generalizing h with
  | nil => exact .refl ht
  | cons event events ih =>
    have first : h.Goes (h.deliver event) := by
      cases event with
      | posted receiver command =>
        have spares : command.spares = true := discreet _ List.mem_cons_self
        exact modifySeat_goes ht (fun _ seat resident => resident.post spares)
          fun _ seat departed => (seat.fate_post command).trans departed
      | _ => exact .refl ht
    exact first.trans (ih (fun e he => discreet e (List.mem_cons_of_mem event he)) first.tenanted)

/-- What is posted to a driver that stops is lost, whether it comes before or after. -/
theorem deliver_vacate (i : SessionId) (events : List Event) (h : Hall Room) :
    (events.foldl deliver h).modifySeat i (·.vacate) =
      events.foldl deliver (h.modifySeat i (·.vacate)) := by
  refine (List.foldl_hom (fun h : Hall Room => h.modifySeat i (·.vacate)) ?_).symm
  intro h event
  cases event with
  | posted receiver command =>
    simp only [deliver, modifySeat, Hall.mk.injEq, true_and, and_true]
    by_cases hr : receiver = i
    · subst hr
      rw [List.modify_modify_eq, List.modify_modify_eq]
      refine congrArg (h.seats.modify receiver) (funext fun seat => ?_)
      have refused : seat.vacate.post command = seat.vacate := if_pos rfl
      have dropped : (seat.post command).vacate = seat.vacate := by
        unfold Seat.post
        split <;> rfl
      exact refused.trans dropped.symm
    · exact List.modify_modify_ne _ _ _ (Ne.symm hr)
  | _ => rfl

/-- What a resident does that does not end it. -/
theorem act_goes (ht : h.Tenanted) (hr : h.Resident i) {f : Host Room → Turn Room → Turn Room}
    (hf : ∀ t : Turn Room, t.session.Spares →
      t.Minds (f (Handler.chatRoom.host (h.nesting + 1)) t)) : h.Goes (h.act i f) := by
  obtain ⟨seat, hs, resident⟩ := id hr
  have minds := hf
    { now := h.now, session := { seat.session with reachable := seat.isHeld h.shared }
      shared := h.shared } resident.waits
  unfold act
  simp only [hs, resident.handler]
  generalize f (Handler.chatRoom.host (h.nesting + 1)) _ = t at minds ⊢
  obtain ⟨tag, waits, ⟨calls, own, room⟩, news, events, discreet⟩ := minds
  obtain rfl : t.events = news := events
  have changed : h.Goes { h with shared := t.shared } := by
    refine shared_goes ht fun j member => ?_
    rw [room] at member
    rcases Room.member_of_after own member with old | rfl
    · exact ht.members j old
    · rwa [resident.id]
  have seated := changed.trans (modifySeat_goes (i := i) changed.tenanted
    (f := fun seat => { seat with session := t.session, trace := seat.trace ++ t.events })
    (fun _ seat' old => { old with
      id := (congrArg Prod.fst tag).trans resident.id
      live := (congrArg Prod.snd tag).trans resident.live
      waits := waits
      unheard := by rw [List.countP_append, old.unheard, Event.countP_isEnd discreet] })
    (fun gone => absurd gone hr.not_departed))
  exact seated.trans (deliver_goes discreet seated.tenanted)

/-- A driver leaves its seat, and its session the room. -/
theorem vacate_goes (ht : h.Tenanted) (hr : h.Resident i) {t : Turn Room}
    (ended : t.session.ended = true) (once : t.events.countP Event.isEnd = 1)
    (hm : ∀ j, t.shared.hasMember j = true → j ≠ i ∧ h.shared.hasMember j = true) :
    h.Goes ((({ h with shared := t.shared } : Hall Room).modifySeat i fun seat =>
      { seat with session := t.session, trace := seat.trace ++ t.events }).modifySeat i
        (·.vacate)) := by
  generalize hh' : Hall.modifySeat i (·.vacate) _ = h'
  have other (j : SessionId) (hij : i ≠ j) : h'.seats[j]? = h.seats[j]? := by
    rw [← hh', modifySeat_other _ hij, modifySeat_other _ hij]
  have gone : h'.Departed i := by
    obtain ⟨seat, hs, resident⟩ := hr
    refine ⟨Seat.vacate { seat with session := t.session, trace := seat.trace ++ t.events }, ?_, ?_⟩
    · rw [← hh', modifySeat_self, modifySeat_self, hs]
      rfl
    · simp [Seat.Departed, Seat.fate, Seat.vacate, ended, once, resident.unheard]
  have departed (j : SessionId) (hd : h.Departed j) : h'.Departed j := by
    have hij : i ≠ j := by
      rintro rfl
      exact hr.not_departed hd
    rwa [Departed, other j hij]
  have resident (j : SessionId) (hij : i ≠ j) (here : h.Resident j) : h'.Resident j := by
    rwa [Resident, other j hij]
  refine ⟨⟨fun j hj => ?_, fun j member => ?_⟩, departed⟩
  · rw [← hh', modifySeat, modifySeat, List.length_modify, List.length_modify] at hj
    by_cases hij : i = j
    · exact .inr (hij ▸ gone)
    · exact (ht.seated j hj).imp (resident j hij) (departed j)
  · rw [← hh'] at member
    obtain ⟨hij, old⟩ := hm j member
    exact resident j (Ne.symm hij) (ht.members j old)

/-- A driver that stops ends its session, and does so once. -/
theorem stop_goes (ht : h.Tenanted) (i : SessionId) : h.Goes (h.stop i) := by
  by_cases hi : i < h.seats.length
  case neg =>
    have nobody : h.seats[i]? = none := List.getElem?_eq_none (Nat.le_of_not_lt hi)
    have nothing : h.stop i = h := by
      simp only [stop, act, nobody, modifySeat, List.modify_eq_self (Nat.le_of_not_lt hi)]
    rw [nothing]
    exact .refl ht
  obtain ⟨seat, hs, resident⟩ | ⟨seat, hs, departed⟩ := ht.seated i hi
  · have parts : Turn.Parts
        { now := h.now, session := { seat.session with reachable := seat.isHeld h.shared }
          shared := h.shared }
        (Turn.perform (Handler.chatRoom.host (h.nesting + 1))
          { now := h.now, session := { seat.session with reachable := seat.isHeld h.shared }
            shared := h.shared } .finish) :=
      Handler.chatRoom_parts h.nesting resident.waits resident.live
    unfold stop act
    simp only [hs, resident.handler]
    generalize Turn.perform (Handler.chatRoom.host (h.nesting + 1)) _ _ = t at parts ⊢
    obtain ⟨ended, room, news, events, discreet⟩ := parts
    obtain events : t.events = .entered .finish :: news := events
    have once : t.events.countP Event.isEnd = 1 := by
      rw [events, List.countP_cons, Event.countP_isEnd discreet]
      rfl
    have left := vacate_goes ht ⟨seat, hs, resident⟩ ended once fun j member => by
      rw [room] at member
      rw [← resident.id]
      exact Room.member_of_leave member
    rw [deliver_vacate]
    generalize Hall.modifySeat i (·.vacate) _ = h' at left ⊢
    rw [events, List.foldl_cons]
    exact left.trans (deliver_goes discreet left.tenanted)
  · have ended : seat.session.ended = true := congrArg (·.2.2.1) departed
    have again (seat' : Seat Room) (old : seat'.Departed) : Seat.Departed
        { seat' with
          session := { seat.session with reachable := seat.isHeld h.shared }
          trace := seat'.trace ++ [] } := by
      simp_all [Seat.Departed, Seat.fate]
    have gone : h.Departed i := ⟨seat, hs, departed⟩
    -- Its handler has heard of the end before, and hears nothing now.
    unfold stop act
    simp only [hs]
    rw [Turn.perform_finish_ended]
    case h => exact ended
    have acted := modifySeat_goes ht (fun here => absurd gone here.not_departed) fun _ => again
    exact acted.trans (modifySeat_goes acted.tenanted
      (fun here => absurd (acted.departed i gone) here.not_departed)
      fun _ seat' old => old.vacate)

/-- Whoever had a seat keeps it. -/
theorem enter_old {session : Session} {handler : Handler Room} {listed : Bool} {seat : Seat Room}
    (hs : h.seats[i]? = some seat) : (h.enter session handler listed).seats[i]? = some seat := by
  rw [enter, List.getElem?_append_left (List.getElem?_eq_some_iff.mp hs).1]
  exact hs

theorem enter_resident (h : Hall Room) (id : SessionId) (config : SessionConfig) :
    (h.enter (.server id config) .chatRoom true).Resident h.seats.length := by
  refine ⟨_, List.getElem?_concat_length, ?_⟩
  refine ⟨rfl, rfl, rfl, rfl, rfl, ?_, by simp, rfl⟩
  rintro _ ⟨⟩ body ⟨⟩

theorem enter_goes (ht : h.Tenanted) (id : SessionId) (config : SessionConfig) :
    h.Goes (h.enter (.server id config) .chatRoom true) := by
  have resident (j : SessionId) (here : h.Resident j) :
      (h.enter (.server id config) .chatRoom true).Resident j := by
    obtain ⟨seat, hs, resident⟩ := here
    exact ⟨seat, enter_old hs, resident⟩
  have departed (j : SessionId) (gone : h.Departed j) :
      (h.enter (.server id config) .chatRoom true).Departed j := by
    obtain ⟨seat, hs, departed⟩ := gone
    exact ⟨seat, enter_old hs, departed⟩
  refine ⟨⟨fun j hj => ?_, fun j member => resident j (ht.members j member)⟩, departed⟩
  simp only [enter, List.length_append, List.length_singleton] at hj
  rcases Nat.lt_succ_iff_lt_or_eq.mp hj with old | rfl
  · exact (ht.seated j old).imp (resident j) (departed j)
  · exact .inl (h.enter_resident id config)

/-- What is done to a session before its driver runs. -/
theorem prime_goes (ht : h.Tenanted) (hr : h.Resident i) {actions : List Action}
    (spare : ∀ a ∈ actions, a.spares = true) : h.Goes (h.prime i actions) := by
  refine act_goes ht hr fun t hw => ?_
  exact Turn.performAll_minds (Handler.chatRoom_minds (h.nesting + 1)) hw spare

end Hall

/-- A driver goes back to waiting, or stops. -/
theorem Hall.await_goes {h : Hall Room} {i : SessionId} (ht : h.Tenanted) : h.Goes (h.await i) := by
  have pinned : h.Goes (h.modifySeat i (·.repin h.shared)) :=
    modifySeat_goes ht (fun _ seat resident => { resident with }) fun _ seat departed => departed
  unfold await
  dsimp only
  split
  · exact pinned.trans (stop_goes pinned.tenanted i)
  · exact pinned

/-- A wake ends no session, if no command does that it brings. -/
theorem Wake.turn_minds (depth : Nat) {wake : Wake}
    (hc : ∀ c, wake = .command c → c.spares = true) (t : Turn Room) (hw : t.session.Spares) :
    t.Minds (wake.turn (Handler.chatRoom.host depth) t) := by
  have minds := Handler.chatRoom_minds depth
  cases wake with
  | completion c => exact Turn.perform_minds minds hw rfl
  | lineLost => exact Turn.perform_minds minds hw rfl
  | command c => exact Turn.perform_minds minds hw (hc c rfl)
  | abandoned => exact .same rfl hw rfl rfl
  | timer => exact Turn.perform_minds minds hw rfl

/-- A driver feeds a wake to its session. -/
theorem Hall.fed_goes {h : Hall Room} {i : SessionId} {wake : Wake} (ht : h.Tenanted)
    (hr : h.Resident i) (hc : ∀ c, wake = .command c → c.spares = true) :
    h.Goes (h.fed i wake) := by
  have taken : h.Goes (h.modifySeat i (·.take wake)) :=
    modifySeat_goes ht (fun _ seat resident => resident.take wake) fun _ seat departed => by
      cases wake <;> exact departed
  have here : (h.modifySeat i (·.take wake)).Resident i :=
    hr.modify fun _ seat resident => resident.take wake
  exact taken.trans (act_goes taken.tenanted here fun t hw => Wake.turn_minds _ hc t hw)

/-- What happens to the sessions of a chat server: a session takes its seat listed, and what is done
to it or posted to it leaves the end of a session to its driver. -/
def Stir.InChat : Stir Room → Prop
  | .enter session handler listed _ actions =>
    (∃ id config, session = .server id config) ∧ handler = .chatRoom ∧ listed = true ∧
      ∀ a ∈ actions, a.spares = true
  | .post _ command => command.spares = true
  | _ => True

namespace Bustle

variable {b : Bustle Room}

theorem stir_goes (ht : b.hall.Tenanted) {s : Stir Room} (hs : s.InChat) :
    b.hall.Goes (b.stir s).hall := by
  cases s with
  | enter session handler listed handles actions =>
    obtain ⟨⟨id, config, rfl⟩, rfl, rfl, spare⟩ := hs
    have seated := Hall.enter_goes ht id config
    have held := seated.trans (Hall.modifySeat_goes (i := b.hall.seats.length)
      (f := ({ · with handles })) seated.tenanted (fun _ seat resident => { resident with })
      fun _ seat departed => departed)
    have here := (b.hall.enter_resident id config).modify (i := b.hall.seats.length)
      (f := ({ · with handles })) fun _ seat resident => { resident with }
    exact held.trans (Hall.prime_goes held.tenanted here spare)
  | feed i completion =>
    exact Hall.modifySeat_goes ht (fun _ seat resident => resident.feed completion)
      fun _ seat departed => (seat.fate_feed completion).trans departed
  | hangUp i | hold i handles =>
    exact Hall.modifySeat_goes ht (fun _ seat resident => { resident with })
      fun _ seat departed => departed
  | post i command =>
    exact Hall.modifySeat_goes ht (fun _ seat resident => resident.post hs)
      fun _ seat departed => (seat.fate_post command).trans departed
  | advance span => exact ⟨⟨ht.seated, ht.members⟩, fun _ gone => gone⟩
  | turn i place =>
    simp only [stir]
    split
    · exact .refl ht
    · rename_i wake taken
      obtain ⟨seat, seated, -, running, ready⟩ := taken_eq_some taken
      have resident := ht.resident seated running
      have spares (c : Command) (hc : wake = .command c) : c.spares = true := by
        subst hc
        exact resident.commands c (Seat.command_of_ready ready)
      have fed := Hall.fed_goes ht ⟨seat, seated, resident⟩ spares
      split
      · exact fed.trans (Hall.stop_goes fed.tenanted i)
      · exact fed
  | look i =>
    simp only [stir]
    split
    · exact Hall.await_goes ht
    · exact .refl ht

theorem course_goes (ht : b.hall.Tenanted) {stirs : List (Stir Room)}
    (hs : ∀ s ∈ stirs, s.InChat) : b.hall.Goes (b.course stirs).hall := by
  induction stirs generalizing b with
  | nil => exact .refl ht
  | cons s stirs ih =>
    have first := stir_goes ht (hs s List.mem_cons_self)
    exact first.trans (ih first.tenanted fun s' hm => hs s' (List.mem_cons_of_mem s hm))

theorem opening_tenanted (nesting limit : Nat) :
    (opening nesting ({ limit } : Room)).hall.Tenanted := by
  refine ⟨fun i hi => ?_, fun i member => ?_⟩
  · cases hi
  · cases member

/-- The driver of a session has stopped, and nothing is left of the session: it heard of its end
once, the registry does not list it, and the room does not have it as a member. -/
def Gone (b : Bustle Room) (i : SessionId) : Prop :=
  ∃ seat, b.seat? i = some seat ∧ seat.stopped = true ∧ seat.trace.countP Event.isEnd = 1 ∧
    seat.listed = false ∧ b.hall.shared.hasMember i = false

/-- Whatever happens in a chat server that leaves the end of a session to its driver, a session is
listed, and its end has not been heard of, while its driver runs; and once its driver has stopped,
it is gone for good. -/
theorem leaves_no_ghost (nesting limit : Nat) (stirs more : List (Stir Room))
    (hs : ∀ s ∈ stirs ++ more, s.InChat) {i : SessionId} {seat : Seat Room}
    (h : ((opening nesting { limit }).course stirs).seat? i = some seat) :
    (seat.stopped = false → seat.listed = true ∧ seat.trace.countP Event.isEnd = 0) ∧
      (seat.stopped = true → ((opening nesting { limit }).course (stirs ++ more)).Gone i) := by
  have first := course_goes (opening_tenanted nesting limit)
    fun s hm => hs s (List.mem_append_left more hm)
  have rest := course_goes first.tenanted fun s hm => hs s (List.mem_append_right stirs hm)
  have together : (opening nesting { limit }).course (stirs ++ more) =
      ((opening nesting { limit }).course stirs).course more := List.foldl_append
  rw [together]
  refine ⟨fun running => ?_, fun stopped => ?_⟩
  · have resident := first.tenanted.resident h running
    exact ⟨resident.listed, resident.unheard⟩
  · have gone := rest.departed i ⟨seat, h, first.tenanted.departed h stopped⟩
    have stranger : (((opening nesting { limit }).course stirs).course more).hall.shared.hasMember i =
        false := by
      refine Bool.eq_false_iff.mpr fun member => ?_
      exact (rest.tenanted.members i member).not_departed gone
    obtain ⟨seat', hs', departed⟩ := gone
    simp only [Seat.Departed, Seat.fate, Prod.mk.injEq] at departed
    obtain ⟨stopped, unlisted, -, once⟩ := departed
    exact ⟨seat', hs', stopped, once, unlisted, stranger⟩

/-- Ann comes to the room and gives her name. -/
def annComes : List (Stir Room) :=
  [.enter (.server 0 {}) .chatRoom true 0 [.accept {}], .look 0,
    .feed 0 (.accepted (.ok ())), .turn 0 0, .look 0,
    .feed 0 (.written (.ok 18)), .turn 0 0, .look 0,
    .feed 0 (.read (.ok ⟨.text, introduction "Ann"⟩)), .turn 0 0, .look 0]

/-- Her connection breaks while the room greets her. -/
def annBreaksOff : List (Stir Room) := annComes ++ [.hangUp 0, .turn 0 0]

theorem annBreaksOff_leaves_no_ghost :
    (∀ s ∈ annBreaksOff ++ [.post 0 .read], s.InChat) ∧
      ((opening 99 { limit := 2 }).course annComes).hall.shared.hasMember 0 = true ∧
      ((opening 99 { limit := 2 }).course (annBreaksOff ++ [.post 0 .read])).Gone 0 := by
  have chat : ∀ s ∈ annBreaksOff ++ [.post 0 .read], s.InChat := by
    have entered : Stir.InChat (.enter (.server 0 {}) .chatRoom true 0 [.accept {}]) :=
      ⟨⟨0, {}, rfl⟩, rfl, rfl, by simp [Action.spares]⟩
    refine List.forall_mem_cons.mpr ⟨entered, ?_⟩
    simp [Stir.InChat, Command.spares]
  have member : ((opening 99 { limit := 2 }).course annComes).hall.shared.hasMember 0 = true := by
    decide +kernel
  obtain ⟨seat, seated, stopped⟩ :
      ∃ seat, ((opening 99 { limit := 2 }).course annBreaksOff).seat? 0 = some seat ∧
        seat.stopped = true := ⟨_, rfl, by decide +kernel⟩
  exact ⟨chat, member, (leaves_no_ghost 99 2 annBreaksOff [.post 0 .read] chat seated).2 stopped⟩

end Bustle

end Parley

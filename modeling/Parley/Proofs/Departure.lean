import Parley.Chat.Room
import Parley.Hall.Basic

namespace Parley

variable {σ : Type}

/-- One thing that happens in a hall. -/
inductive Stir (σ : Type)
  /-- A session takes a seat. These actions are carried out on it before its driver runs. -/
  | enter (session : Session) (handler : Handler σ) (listed : Bool) (handles : Nat)
      (actions : List Action)
  | feed (i : SessionId) (completion : Completion)
  /-- No more completions will be fed. -/
  | hangUp (i : SessionId)
  /-- So many handles are held outside from now on. -/
  | hold (i : SessionId) (handles : Nat)
  | post (i : SessionId) (command : Command)
  | advance (span : Nat)
  /-- A driver takes up what has this place among all that is ready. -/
  | turn (i : SessionId) (place : Nat)
  /-- A driver looks at its session, and waits or leaves. -/
  | look (i : SessionId)

/-- A hall with the drivers that have yet to look at their sessions before they wait: those that
have just started, and those in the middle of a turn. -/
structure Bustle (σ : Type) where
  hall : Hall σ
  busy : List SessionId := []

/-- The hall once a driver has fed this wake to its session. -/
def Hall.fed (i : SessionId) (wake : Wake) (h : Hall σ) : Hall σ :=
  (h.modifySeat i (·.take wake)).act i fun host t => wake.turn host t

theorem Hall.serve_eq (i : SessionId) (wake : Wake) (h : Hall σ) :
    h.serve i wake = if wake.isLast then (h.fed i wake).stop i else (h.fed i wake).await i :=
  rfl

namespace Bustle

def opening (nesting : Nat) (shared : σ) : Bustle σ := { hall := { shared, nesting } }

def seat? (b : Bustle σ) (i : SessionId) : Option (Seat σ) := b.hall.seats[i]?

/-- What a driver that waits would take up at this place. -/
def taken? (b : Bustle σ) (i : SessionId) (place : Nat) : Option Wake :=
  match b.seat? i with
  | some seat =>
    if i ∈ b.busy ∨ seat.stopped then none else (seat.ready b.hall.now b.hall.shared)[place]?
  | none => none

def stir (b : Bustle σ) : Stir σ → Bustle σ
  | .enter session handler listed handles actions =>
    let i := b.hall.seats.length
    let hall := (b.hall.enter session handler listed).modifySeat i ({ · with handles })
    { hall := hall.prime i actions, busy := i :: b.busy }
  | .feed i completion => { b with hall := b.hall.modifySeat i (·.feed completion) }
  | .hangUp i => { b with hall := b.hall.modifySeat i ({ · with lineUp := false }) }
  | .hold i handles => { b with hall := b.hall.modifySeat i ({ · with handles }) }
  | .post i command => { b with hall := (b.hall.post i command).2 }
  | .advance span => { b with hall := b.hall.advance span }
  | .turn i place =>
    match b.taken? i place with
    | none => b
    | some wake =>
      if wake.isLast then { b with hall := (b.hall.fed i wake).stop i }
      else { hall := b.hall.fed i wake, busy := i :: b.busy }
  | .look i =>
    if i ∈ b.busy then { hall := b.hall.await i, busy := b.busy.filter (· ≠ i) } else b

def course (stirs : List (Stir σ)) (b : Bustle σ) : Bustle σ := stirs.foldl stir b

/-- The seat of a driver that leaves its loop, as it is then: its handler hears of it next. -/
def leaves (b : Bustle σ) (i : SessionId) : Stir σ → Option (Seat σ)
  | .turn j place =>
    match b.taken? i place with
    | some wake => if j = i ∧ wake.isLast then (b.hall.fed i wake).seats[i]? else none
    | none => none
  | .look j =>
    if j = i ∧ i ∈ b.busy then ((b.seat? i).map (·.repin b.hall.shared)).filter (·.isDone) else none
  | _ => none

/-- If this driver looks while an operation is outstanding, it finds its session held. -/
def grips (b : Bustle σ) (i : SessionId) : Stir σ → Bool
  | .look j =>
    j ≠ i || (b.seat? i).all fun seat => seat.session.pending = 0 || seat.isHeld b.hall.shared
  | _ => true

/-- It does so every time. -/
def gripped (b : Bustle σ) (i : SessionId) : List (Stir σ) → Bool
  | [] => true
  | s :: stirs => b.grips i s && (b.stir s).gripped i stirs

theorem taken_eq_some {b : Bustle σ} {i : SessionId} {place : Nat} {wake : Wake}
    (h : b.taken? i place = some wake) :
    ∃ seat, b.seat? i = some seat ∧ i ∉ b.busy ∧ seat.stopped = false ∧
      wake ∈ seat.ready b.hall.now b.hall.shared := by
  unfold taken? at h
  split at h
  case h_1 seat hs =>
    split at h
    · cases h
    case isFalse idle =>
      simp only [not_or, Bool.not_eq_true] at idle
      exact ⟨seat, hs, idle.1, idle.2, List.mem_of_getElem? h⟩
  case h_2 => cases h

/-- A turn and the look after it are one round of a driver. -/
theorem stir_turn_look {b : Bustle σ} {i : SessionId} {place : Nat} {wake : Wake}
    (h : b.taken? i place = some wake) :
    ((b.stir (.turn i place)).stir (.look i)).hall = b.hall.serve i wake := by
  obtain ⟨-, -, idle, -⟩ := taken_eq_some h
  rw [Hall.serve_eq]
  cases hl : wake.isLast <;> simp [stir, h, hl, idle]

/-- Whatever a round of the hall picks, it is such a turn with such a look. -/
theorem round_eq_course {choose : List Wake → Option Wake}
    (hc : ∀ wakes wake, choose wakes = some wake → wake ∈ wakes) {b : Bustle σ} {i : SessionId}
    (idle : i ∉ b.busy) {h : Hall σ} (hr : b.hall.round choose i = some h) :
    ∃ place, (b.course [.turn i place, .look i]).hall = h := by
  unfold Hall.round at hr
  split at hr
  · cases hr
  case h_2 seat hs =>
    split at hr
    · cases hr
    case isFalse running =>
      obtain ⟨wake, chosen, rfl⟩ := Option.map_eq_some_iff.mp hr
      obtain ⟨place, ready⟩ := List.getElem?_of_mem (hc _ _ chosen)
      refine ⟨place, stir_turn_look ?_⟩
      simp only [taken?, seat?, hs]
      rw [if_neg (by simp [idle, running])]
      exact ready

end Bustle

/-- A command that is ready was posted. -/
theorem Seat.command_of_ready {now : Nat} {shared : σ} {seat : Seat σ} {c : Command}
    (h : .command c ∈ seat.ready now shared) : c ∈ seat.commands := by
  simp only [ready, List.mem_append] at h
  rcases h with (h | h) | h
  · split at h
    · cases List.mem_singleton.mp h
    · split at h
      · cases h
      · cases List.mem_singleton.mp h
  · split at h
    · rename_i c' rest commands
      cases List.mem_singleton.mp h
      rw [commands]
      exact List.mem_cons_self
    · split at h
      · cases h
      · cases List.mem_singleton.mp h
  · split at h
    · split at h
      · cases List.mem_singleton.mp h
      · cases h
    · cases h

/-- The part of a seat that its driver goes by. -/
def Seat.footing (seat : Seat σ) : Bool × Bool × Nat :=
  (seat.stopped, seat.pinned, seat.session.pending)

theorem Seat.footing_feed (completion : Completion) (seat : Seat σ) :
    (seat.feed completion).footing = seat.footing := by
  unfold feed
  split <;> rfl

namespace Hall

theorem modifySeat_seat (h : Hall σ) (i j : SessionId) (f : Seat σ → Seat σ) :
    (h.modifySeat i f).seats[j]? = if i = j then (h.seats[j]?).map f else h.seats[j]? := by
  rw [modifySeat, List.getElem?_modify]
  split <;> simp

theorem modifySeat_self (h : Hall σ) (i : SessionId) (f : Seat σ → Seat σ) :
    (h.modifySeat i f).seats[i]? = (h.seats[i]?).map f := by
  simp [modifySeat_seat]

theorem modifySeat_other (h : Hall σ) {i j : SessionId} (hij : i ≠ j) (f : Seat σ → Seat σ) :
    (h.modifySeat i f).seats[j]? = h.seats[j]? := by
  simp [modifySeat_seat, hij]

section

variable {α : Type} (view : Seat σ → α)

/-- What a change at one seat does not touch, it touches nowhere. -/
theorem modifySeat_view {f : Seat σ → Seat σ} (hf : ∀ seat, view (f seat) = view seat)
    (h : Hall σ) (i j : SessionId) :
    ((h.modifySeat i f).seats[j]?).map view = (h.seats[j]?).map view := by
  rw [modifySeat_seat]
  split
  · rw [Option.map_map]
    exact congrArg (Option.map · _) (funext hf)
  · rfl

variable (hc : ∀ seat commands, view { seat with commands } = view seat)

include hc

theorem post_view (command : Command) (seat : Seat σ) : view (seat.post command) = view seat := by
  unfold Seat.post
  split
  · rfl
  · exact hc seat _

theorem deliver_view (events : List Event) (h : Hall σ) (j : SessionId) :
    ((events.foldl deliver h).seats[j]?).map view = (h.seats[j]?).map view := by
  induction events generalizing h with
  | nil => rfl
  | cons event events ih =>
    rw [List.foldl_cons, ih]
    cases event with
    | posted receiver command => exact modifySeat_view view (post_view view hc command) h receiver j
    | _ => rfl

/-- A turn tells other seats commands, and nothing else happens to them. -/
theorem act_other (h : Hall σ) {i j : SessionId} (hij : i ≠ j) (f : Host σ → Turn σ → Turn σ) :
    ((h.act i f).seats[j]?).map view = (h.seats[j]?).map view := by
  unfold act
  split
  · rfl
  · dsimp only
    rw [deliver_view view hc, modifySeat_other _ hij]

/-- Its own seat gets a session and a trace. -/
theorem act_view (hv : ∀ seat session trace, view { seat with session, trace } = view seat)
    (h : Hall σ) (i j : SessionId) (f : Host σ → Turn σ → Turn σ) :
    ((h.act i f).seats[j]?).map view = (h.seats[j]?).map view := by
  unfold act
  split
  · rfl
  · dsimp only
    rw [deliver_view view hc, modifySeat_view view fun seat => hv seat _ _]

theorem fed_view (hv : ∀ seat session trace, view { seat with session, trace } = view seat)
    (wake : Wake) (ht : ∀ seat, view (Seat.take wake seat) = view seat)
    (h : Hall σ) (i j : SessionId) :
    ((h.fed i wake).seats[j]?).map view = (h.seats[j]?).map view := by
  rw [fed, act_view view hc hv, modifySeat_view view ht]

theorem stop_other (h : Hall σ) {i j : SessionId} (hij : i ≠ j) :
    ((h.stop i).seats[j]?).map view = (h.seats[j]?).map view := by
  rw [stop, modifySeat_other _ hij, act_other view hc h hij]

theorem await_other (h : Hall σ) {i j : SessionId} (hij : i ≠ j) :
    ((h.await i).seats[j]?).map view = (h.seats[j]?).map view := by
  unfold await
  dsimp only
  split
  · rw [stop_other view hc _ hij, modifySeat_other _ hij]
  · rw [modifySeat_other _ hij]

theorem fed_other (h : Hall σ) {i j : SessionId} (hij : i ≠ j) (wake : Wake) :
    ((h.fed i wake).seats[j]?).map view = (h.seats[j]?).map view := by
  rw [fed, act_other view hc _ hij, modifySeat_other _ hij]

end

theorem stop_self {h : Hall σ} {i : SessionId} {seat' : Seat σ}
    (hs' : (h.stop i).seats[i]? = some seat') :
    seat'.stopped = true ∧ ∃ seat, h.seats[i]? = some seat := by
  rw [stop, modifySeat_self] at hs'
  obtain ⟨acted, ha, rfl⟩ := Option.map_eq_some_iff.mp hs'
  have same := h.act_view (fun _ => ()) (fun _ _ => rfl) (fun _ _ _ => rfl) i i
    fun host t => t.perform host .finish
  rw [ha] at same
  obtain ⟨seat, hs, -⟩ := Option.map_eq_some_iff.mp same.symm
  exact ⟨rfl, seat, hs⟩

/-- A driver that hears that no command can come does nothing to its session. -/
theorem fed_abandoned {h : Hall σ} {i : SessionId} {seat : Seat σ} (hs : h.seats[i]? = some seat) :
    (h.fed i .abandoned).seats[i]? =
      some { seat with session := { seat.session with reachable := seat.isHeld h.shared } } := by
  have same : h.modifySeat i (·.take .abandoned) = h := by
    rw [modifySeat, show (Seat.take (σ := σ) .abandoned) = id from rfl, List.modify_id]
  simp only [fed, same, act, hs, Wake.turn, List.foldl_nil, List.append_nil, modifySeat_self,
    Option.map_some]

/-- A driver that goes back to waiting pins its session if it can. -/
theorem await_self {h : Hall σ} {i : SessionId} {seat' : Seat σ}
    (hs' : (h.await i).seats[i]? = some seat') :
    ∃ seat, h.seats[i]? = some seat ∧
      ((seat.repin h.shared).isDone = true ∧ seat'.stopped = true ∨
        (seat.repin h.shared).isDone = false ∧ seat' = seat.repin h.shared) := by
  have repinned := h.modifySeat_self i (·.repin h.shared)
  unfold await at hs'
  cases hs : h.seats[i]? with
  | none => simp [repinned, hs] at hs'
  | some seat =>
    rw [hs, Option.map_some] at repinned
    simp only [repinned, Option.any_some] at hs'
    refine ⟨seat, rfl, ?_⟩
    cases hd : (seat.repin h.shared).isDone with
    | true =>
      rw [hd, if_pos rfl] at hs'
      exact .inl ⟨rfl, (stop_self hs').1⟩
    | false =>
      rw [hd, if_neg (by simp), repinned] at hs'
      exact .inr ⟨rfl, (Option.some.inj hs').symm⟩

/-- A driver whose session has an operation outstanding goes back to waiting. -/
theorem await_pending {h : Hall σ} {i : SessionId} {seat : Seat σ} (hs : h.seats[i]? = some seat)
    (pending : 0 < seat.session.pending) : h.await i = h.modifySeat i (·.repin h.shared) := by
  have waits : ((h.modifySeat i (·.repin h.shared)).seats[i]?).any (·.isDone) = false := by
    simp [modifySeat_self, hs, Seat.repin, Seat.isDone, Nat.pos_iff_ne_zero.mp pending]
  simp only [await, waits, Bool.false_eq_true, if_false]

end Hall

namespace Bustle

variable {b : Bustle σ} {i : SessionId} {s : Stir σ}

/-- This driver makes a move, or is new. -/
def Drives (b : Bustle σ) (i : SessionId) : Stir σ → Prop
  | .enter .. => b.hall.seats.length = i
  | .turn j _ | .look j => j = i
  | _ => False

/-- A driver stands as it did while only others move. -/
theorem stir_footing (h : ¬b.Drives i s) :
    ((b.stir s).seat? i).map Seat.footing = (b.seat? i).map Seat.footing := by
  have posted (seat : Seat σ) (commands : List Command) :
      { seat with commands }.footing = seat.footing := rfl
  unfold stir seat?
  cases s with
  | enter session handler listed handles actions =>
    have hn : b.hall.seats.length ≠ i := h
    dsimp only
    rw [Hall.prime, Hall.act_other _ posted _ hn, Hall.modifySeat_other _ hn, Hall.enter]
    dsimp only
    rcases Nat.lt_or_gt_of_ne hn with hlt | hgt
    · rw [List.getElem?_eq_none (by simp; omega), List.getElem?_eq_none (by omega)]
    · rw [List.getElem?_append_left hgt]
  | feed j completion => exact Hall.modifySeat_view _ (Seat.footing_feed completion) _ _ _
  | hangUp j =>
    exact Hall.modifySeat_view (f := ({ · with lineUp := false })) _ (fun _ => rfl) _ _ _
  | hold j handles =>
    exact Hall.modifySeat_view (f := ({ · with handles })) _ (fun _ => rfl) _ _ _
  | post j command => exact Hall.modifySeat_view _ (Hall.post_view _ posted command) _ _ _
  | advance span => rfl
  | turn j place =>
    have hij : j ≠ i := h
    dsimp only
    split
    · rfl
    · split
      · dsimp only
        rw [Hall.stop_other _ posted _ hij, Hall.fed_other _ posted _ hij]
      · exact Hall.fed_other _ posted _ hij _
  | look j =>
    have hij : j ≠ i := h
    dsimp only
    split
    · exact Hall.await_other _ posted _ hij
    · rfl

theorem stir_busy (h : ¬b.Drives i s) : i ∈ (b.stir s).busy ↔ i ∈ b.busy := by
  cases s with
  | enter session handler listed handles actions =>
    have hn : b.hall.seats.length ≠ i := h
    simp [stir, hn.symm]
  | turn j place =>
    have hij : j ≠ i := h
    simp only [stir]
    split
    · rfl
    · split <;> simp [hij.symm]
  | look j =>
    have hij : j ≠ i := h
    simp only [stir]
    split <;> simp [hij.symm]
  | _ => rfl

/-- This driver, if it waits, has its session pinned, or nothing outstanding. -/
def Moored (b : Bustle σ) (i : SessionId) : Prop :=
  ∀ seat, b.seat? i = some seat → i ∉ b.busy → seat.stopped = false →
    seat.pinned = true ∨ seat.session.pending = 0

theorem opening_moored (nesting : Nat) (shared : σ) : (opening nesting shared).Moored i := by
  intro seat hs
  simp [opening, seat?] at hs

theorem Moored.stir (h : b.Moored i) (hg : b.grips i s = true) : (b.stir s).Moored i := by
  intro seat hs hb hr
  by_cases hd : b.Drives i s
  · cases s with
    | enter session handler listed handles actions =>
      exact absurd hb (by simp [Bustle.stir, show b.hall.seats.length = i from hd])
    | turn j place =>
      obtain rfl : j = i := hd
      simp only [Bustle.stir] at hs hb
      cases taken : b.taken? j place with
      | none =>
        simp only [taken] at hs hb
        exact h seat hs hb hr
      | some wake =>
        simp only [taken] at hs hb
        split at hs
        · simp [(Hall.stop_self hs).1] at hr
        · simp_all
    | look j =>
      obtain rfl : j = i := hd
      simp only [Bustle.stir] at hs hb
      split at hs
      · obtain ⟨seat₀, h₀, ⟨-, gone⟩ | ⟨-, rfl⟩⟩ := Hall.await_self hs
        · simp [gone] at hr
        · have held : seat₀.session.pending = 0 ∨ seat₀.isHeld b.hall.shared = true := by
            simpa [grips, seat?, h₀] using hg
          rcases Nat.eq_zero_or_pos seat₀.session.pending with h0 | hpos
          · exact .inr h0
          · exact .inl (by simp [Seat.repin, hpos, held.resolve_left (by omega)])
      · exact h seat hs ‹_› hr
    | _ => exact False.elim hd
  · rw [stir_busy hd] at hb
    obtain ⟨seat₀, h₀, he⟩ : ∃ seat₀, b.seat? i = some seat₀ ∧ seat₀.footing = seat.footing :=
      Option.map_eq_some_iff.mp ((stir_footing hd).symm.trans (by rw [hs]; rfl))
    simp only [Seat.footing, Prod.mk.injEq] at he
    obtain ⟨hs₀, hp₀, hn₀⟩ := he
    rw [← hp₀, ← hn₀]
    exact h seat₀ h₀ hb (hs₀.trans hr)

theorem Moored.course {stirs : List (Stir σ)} (h : b.Moored i) (hg : b.gripped i stirs = true) :
    (b.course stirs).Moored i := by
  induction stirs generalizing b with
  | nil => exact h
  | cons s stirs ih =>
    obtain ⟨hs, hg⟩ := Bool.and_eq_true_iff.mp hg
    exact ih (h.stir hs) hg

end Bustle

namespace Seat

variable {now : Nat} {shared : σ} {seat : Seat σ} {wake : Wake}

/-- All completions are taken and none can come. -/
def LineEnded (seat : Seat σ) : Prop := seat.inbox = [] ∧ seat.lineUp = false

/-- Nothing is outstanding, and the session is closed or no handle to it is left. -/
def Finished (shared : σ) (seat : Seat σ) : Prop :=
  seat.session.pending = 0 ∧
    (seat.session.isClosed = true ∨
      seat.handles = 0 ∧ seat.handler.holds shared seat.session.id = false)

theorem lineEnded_of_ready (h : .lineLost ∈ seat.ready now shared) : seat.LineEnded := by
  simp only [ready, List.mem_append] at h
  rcases h with (h | h) | h <;> split at h <;> (try split at h) <;> simp_all [LineEnded]

theorem unheld_of_ready (h : .abandoned ∈ seat.ready now shared) : seat.isHeld shared = false := by
  simp only [ready, List.mem_append] at h
  rcases h with (h | h) | h <;> split at h <;> (try split at h) <;> simp_all

theorem abandoned_ready (now : Nat) (quiet : seat.commands = [])
    (unheld : seat.isHeld shared = false) : .abandoned ∈ seat.ready now shared := by
  simp [ready, quiet, unheld]

theorem repin_unheld (unheld : seat.isHeld shared = false) :
    (seat.repin shared).isHeld shared = false := by
  simp only [isHeld, Bool.or_eq_false_iff] at unheld
  simp [repin, isHeld, unheld]

end Seat

namespace Bustle

variable {b : Bustle σ} {i : SessionId} {s : Stir σ} {seat : Seat σ}

theorem Moored.leaves (hm : b.Moored i) (hl : b.leaves i s = some seat) :
    seat.LineEnded ∨ seat.Finished b.hall.shared := by
  cases s with
  | turn j place =>
    simp only [Bustle.leaves] at hl
    cases taken : b.taken? i place with
    | none => simp [taken] at hl
    | some wake =>
      simp only [taken, Option.ite_none_right_eq_some] at hl
      obtain ⟨⟨rfl, last⟩, hl⟩ := hl
      obtain ⟨seat₀, h₀, idle, running, ready⟩ := taken_eq_some taken
      cases wake with
      | lineLost =>
        have same := b.hall.fed_view (fun seat => (seat.inbox, seat.lineUp)) (fun _ _ => rfl)
          (fun _ _ _ => rfl) .lineLost (fun _ => rfl) j j
        rw [hl, show b.hall.seats[j]? = some seat₀ from h₀] at same
        simp only [Option.map_some, Option.some.injEq, Prod.mk.injEq] at same
        have ended := Seat.lineEnded_of_ready ready
        exact .inl ⟨same.1.trans ended.1, same.2.trans ended.2⟩
      | abandoned =>
        have unheld := Seat.unheld_of_ready ready
        simp only [Seat.isHeld, Bool.or_eq_false_iff, decide_eq_false_iff_not,
          Nat.not_lt, Nat.le_zero] at unheld
        obtain ⟨⟨unpinned, dropped⟩, unkept⟩ := unheld
        have settled := (hm seat₀ h₀ idle running).resolve_left (by simp [unpinned])
        cases (Hall.fed_abandoned h₀).symm.trans hl
        exact .inr ⟨settled, .inr ⟨dropped, unkept⟩⟩
      | _ => cases last
  | look j =>
    simp only [Bustle.leaves, Option.ite_none_right_eq_some, Option.filter_eq_some_iff] at hl
    obtain ⟨-, -, done⟩ := hl
    simp only [Seat.isDone, Bool.and_eq_true, decide_eq_true_eq] at done
    exact .inr ⟨done.1, .inl done.2⟩
  | _ => simp [Bustle.leaves] at hl

/-- A driver that is gone after a stir has left its loop there. -/
theorem leaves_of_stopped {seat' : Seat σ} (hs : b.seat? i = some seat) (hr : seat.stopped = false)
    (hs' : (b.stir s).seat? i = some seat') (hr' : seat'.stopped = true) :
    ∃ last, b.leaves i s = some last := by
  have gone (hv : ((b.stir s).seat? i).map (·.stopped) = (b.seat? i).map (·.stopped)) : False := by
    rw [hs, hs', Option.map_some, Option.map_some, hr, hr'] at hv
    simp at hv
  by_cases hd : b.Drives i s
  · cases s with
    | enter session handler listed handles actions =>
      obtain rfl : b.hall.seats.length = i := hd
      simp [seat?] at hs
    | turn j place =>
      obtain rfl : j = i := hd
      simp only [Bustle.stir] at hs' gone
      simp only [Bustle.leaves]
      cases taken : b.taken? j place with
      | none =>
        simp only [taken] at gone
        exact (gone trivial).elim
      | some wake =>
        simp only [taken] at hs' gone
        cases last : wake.isLast with
        | true =>
          simp only [last, if_true] at hs'
          simpa [last] using (Hall.stop_self hs').2
        | false =>
          simp only [last, Bool.false_eq_true, if_false] at gone
          exact (gone (b.hall.fed_view _ (fun _ _ => rfl) (fun _ _ _ => rfl) wake
            (fun _ => by cases wake <;> rfl) j j)).elim
    | look j =>
      obtain rfl : j = i := hd
      simp only [Bustle.stir] at hs' gone
      split at hs'
      case isTrue busy =>
        obtain ⟨seat₀, h₀, ⟨done, -⟩ | ⟨-, rfl⟩⟩ := Hall.await_self hs'
        · exact ⟨seat₀.repin b.hall.shared, by
            simp [Bustle.leaves, seat?, busy, h₀, Option.filter, done]⟩
        · cases hs.symm.trans h₀
          exact absurd (hr.symm.trans hr') (by simp)
      case isFalse idle =>
        rw [if_neg idle] at gone
        exact (gone rfl).elim
    | _ => exact False.elim hd
  · refine (gone ?_).elim
    have footing := congrArg (Option.map Prod.fst) (stir_footing hd)
    rwa [Option.map_map, Option.map_map] at footing

/-- A driver that looks at a session with an operation outstanding, and finds nobody who holds it
and nothing posted to it, may leave in its next turn, whatever may still come back. -/
theorem strands (hs : b.seat? i = some seat) (busy : i ∈ b.busy) (running : seat.stopped = false)
    (pending : 0 < seat.session.pending) (unheld : seat.isHeld b.hall.shared = false)
    (quiet : seat.commands = []) :
    ∃ place last, (b.stir (.look i)).leaves i (.turn i place) = some last ∧
      last.session.pending = seat.session.pending ∧ last.lineUp = seat.lineUp := by
  have waiting : (b.hall.modifySeat i (·.repin b.hall.shared)).seats[i]? =
      some (seat.repin b.hall.shared) := by
    rw [Hall.modifySeat_self, show b.hall.seats[i]? = some seat from hs, Option.map_some]
  have still_quiet : (seat.repin b.hall.shared).commands = [] := quiet
  obtain ⟨place, ready⟩ := List.getElem?_of_mem
    (Seat.abandoned_ready b.hall.now still_quiet (Seat.repin_unheld unheld))
  have looked : b.stir (.look i) =
      { hall := b.hall.modifySeat i (·.repin b.hall.shared), busy := b.busy.filter (· ≠ i) } := by
    rw [stir, if_pos busy, Hall.await_pending hs pending]
  rw [looked]
  have taken : taken? ⟨b.hall.modifySeat i (·.repin b.hall.shared), b.busy.filter (· ≠ i)⟩ i place =
      some .abandoned := by
    have idle : ¬(i ∈ b.busy.filter (· ≠ i) ∨ (seat.repin b.hall.shared).stopped = true) := by
      simp [show (seat.repin b.hall.shared).stopped = false from running]
    simp only [taken?, seat?, waiting]
    rw [if_neg idle]
    exact ready
  refine ⟨place, _, Eq.trans ?_ (Hall.fed_abandoned waiting), rfl, rfl⟩
  simp only [leaves, taken]
  exact if_pos ⟨trivial, rfl⟩

/-- A driver leaves its loop only when no completion can come any more, or when nothing is
outstanding and the session is closed or has no handle left, as long as each of its looks at the
session with an operation outstanding has found somebody who holds it. -/
theorem driver_leaves_settled (nesting : Nat) (shared : σ) (stirs : List (Stir σ)) (s : Stir σ)
    (i : SessionId) {seat seat' : Seat σ}
    (held : (opening nesting shared).gripped i stirs = true)
    (before : ((opening nesting shared).course stirs).seat? i = some seat)
    (running : seat.stopped = false)
    (after : (((opening nesting shared).course stirs).stir s).seat? i = some seat')
    (gone : seat'.stopped = true) :
    ∃ last, ((opening nesting shared).course stirs).leaves i s = some last ∧
      (last.LineEnded ∨ last.Finished ((opening nesting shared).course stirs).hall.shared) := by
  obtain ⟨last, leaves⟩ := leaves_of_stopped before running after gone
  exact ⟨last, leaves, ((opening_moored nesting shared).course held).leaves leaves⟩

/-- A client that shakes hands, after which the only handle to it is let go. -/
def greeted : List (Stir Unit) :=
  [.enter (.client 0 {}) .standard true 1 [.connected], .look 0,
    .feed 0 (.handshaked (.ok ⟨101, []⟩)), .turn 0 0, .look 0]

theorem greeted_leaves_settled :
    (opening 99 ()).gripped 0 (greeted ++ [.hold 0 0]) = true ∧
      ∃ last, ((opening 99 ()).course (greeted ++ [.hold 0 0])).leaves 0 (.turn 0 0) = some last ∧
        (last.LineEnded ∨ last.Finished ()) := by
  have held : (opening 99 ()).gripped 0 (greeted ++ [.hold 0 0]) = true := by decide +kernel
  obtain ⟨seat, before, running⟩ :
      ∃ seat, ((opening 99 ()).course (greeted ++ [.hold 0 0])).seat? 0 = some seat ∧
        seat.stopped = false := ⟨_, rfl, by decide +kernel⟩
  obtain ⟨seat', after, gone⟩ :
      ∃ seat', (((opening 99 ()).course (greeted ++ [.hold 0 0])).stir (.turn 0 0)).seat? 0 =
        some seat' ∧ seat'.stopped = true := ⟨_, rfl, by decide +kernel⟩
  exact ⟨held, driver_leaves_settled 99 () _ _ 0 held before running after gone⟩

/-- The last handle posts a message and is let go before the driver takes it up: the driver issues
the write and leaves before it is done. -/
theorem greeted_abandons_write :
    let b := (opening 99 ()).course (greeted ++
      [.post 0 (.push [104, 105]), .hold 0 0, .turn 0 0, .look 0])
    (b.leaves 0 (.turn 0 0)).map (fun last =>
        (last.session.pending, last.session.writing, last.session.isClosed, last.lineUp)) =
      some (1, true, false, true) := by
  decide +kernel

end Bustle

end Parley

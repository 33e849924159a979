import Parley.Proofs.Crew

namespace Parley

namespace Duty

/-- It has taken up an errand and not yet drawn its conclusion from it. -/
def isTaken : Duty → Bool
  | .busy _ | .starting => true
  | _ => false

/-- It has neither given up nor handed over. -/
def isAtWork : Duty → Bool
  | .idle => true
  | d => d.isTaken

/-- It may have established the WebSocket. -/
def hasOpened : Duty → Bool
  | .starting | .gone => true
  | _ => false

/-- The queues that it has still to see to. -/
def lanes : Duty → List Lane
  | .closing lanes | .draining lanes => lanes
  | _ => []

end Duty

theorem Lane.requests_mem_charge {l : Lane} (h : .requests ∈ l.charge) : l = .requests := by
  cases l with
  | requests => rfl
  | reads | sendings => simp [charge] at h

theorem Lane.next_ne_absent (l : Lane) (c : Completion) : l.next c ≠ .absent := by
  unfold next
  split
  · split <;> exact Duty.noConfusion
  · exact Duty.noConfusion

namespace Crew

variable {w w' : Crew} {l : Lane} {d : Duty} {q : Queue}

theorem setDuty_self : (w.setDuty l d).duty l = d := Function.update_self ..

theorem setDuty_other {l' : Lane} (hl : l' ≠ l) : (w.setDuty l d).duty l' = w.duty l' :=
  Function.update_of_ne hl ..

theorem setQueue_self : (w.setQueue l q).queue l = q := Function.update_self ..

theorem setQueue_other {l' : Lane} (hl : l' ≠ l) : (w.setQueue l q).queue l' = w.queue l' :=
  Function.update_of_ne hl ..

/-- How often the WebSocket was asked for. -/
def requested (w : Crew) : Nat := w.asked.countP (·.lane = .requests)

/-- The tasks follow on one another: the reader and the writer are not there before the first has
done its work, and only after a request was taken up. -/
structure Roster (w : Crew) : Prop where
  opener : w.duty .requests ≠ .absent
  alone : (w.duty .requests).hasOpened = false → ∀ l, l ≠ .requests → w.duty l = .absent
  starter : ∀ l, w.duty l = .starting → l = .requests
  charged : ∀ l, (w.duty l).lanes ⊆ l.charge
  shut : (w.queue .requests).isOpen = false → (w.duty .requests).isAtWork = false
  waiting : (w.queue .requests).waiting.length ≤ w.requested
  taken : (w.duty .requests).isTaken = true →
    (w.queue .requests).waiting.length + 1 ≤ w.requested
  started : ∀ l, l ≠ .requests → w.duty l ≠ .absent → 1 ≤ w.requested

theorem roster_opening : Roster {} := by
  constructor
  case opener => exact Duty.noConfusion
  case alone => exact fun _ l hl => if_neg hl
  case starter => intro l; cases l <;> exact Duty.noConfusion
  case charged => intro l; cases l <;> exact List.nil_subset _
  case shut => exact Bool.noConfusion
  case waiting => exact Nat.le_refl 0
  case taken => exact Bool.noConfusion
  case started => exact fun l hl present => absurd (if_neg hl) present

/-- A task turns to something else. One that was not there yet is started. -/
theorem Roster.setDuty (hr : w.Roster)
    (present : w.duty l = .absent → w.duty .requests = .starting)
    (opened : (w.duty l).hasOpened = true → d.hasOpened = true) (now : d ≠ .absent)
    (starter : d = .starting → l = .requests) (charged : d.lanes ⊆ l.charge)
    (work : l = .requests → d.isAtWork = true → (w.duty l).isAtWork = true)
    (taken : l = .requests → d.isTaken = true →
      (w.queue .requests).waiting.length + 1 ≤ w.requested) : (w.setDuty l d).Roster := by
  have known (l' : Lane) : l' = l ∧ (w.setDuty l d).duty l' = d ∨
      l' ≠ l ∧ (w.setDuty l d).duty l' = w.duty l' := by
    by_cases hl : l' = l
    · exact .inl ⟨hl, hl ▸ setDuty_self⟩
    · exact .inr ⟨hl, setDuty_other hl⟩
  constructor
  case opener =>
    obtain ⟨-, hd⟩ | ⟨-, hd⟩ := known .requests <;> rw [hd]
    · exact now
    · exact hr.opener
  case alone =>
    intro ho l' hl'
    obtain ⟨hl, hd⟩ | ⟨hl, hd⟩ := known .requests <;> rw [hd] at ho
    · subst hl
      rw [setDuty_other hl']
      refine hr.alone (Bool.eq_false_iff.mpr fun before => ?_) l' hl'
      cases ho.symm.trans (opened before)
    · have starting := present (hr.alone ho l (Ne.symm hl))
      rw [starting] at ho
      cases ho
  case starter =>
    intro l' hs
    obtain ⟨rfl, hd⟩ | ⟨-, hd⟩ := known l' <;> rw [hd] at hs
    · exact starter hs
    · exact hr.starter l' hs
  case charged =>
    intro l'
    obtain ⟨rfl, hd⟩ | ⟨-, hd⟩ := known l' <;> rw [hd]
    · exact charged
    · exact hr.charged l'
  case shut =>
    intro closed
    obtain ⟨hl, hd⟩ | ⟨-, hd⟩ := known .requests <;> rw [hd]
    · refine Bool.eq_false_iff.mpr fun working => ?_
      have worked := work hl.symm working
      rw [← hl] at worked
      cases (hr.shut closed).symm.trans worked
    · exact hr.shut closed
  case waiting => exact hr.waiting
  case taken =>
    intro ht
    obtain ⟨hl, hd⟩ | ⟨-, hd⟩ := known .requests <;> rw [hd] at ht
    · exact taken hl.symm ht
    · exact hr.taken ht
  case started =>
    intro l' hl' there
    obtain ⟨rfl, -⟩ | ⟨-, hd⟩ := known l'
    · by_cases absent : w.duty l' = .absent
      · have taken := hr.taken (congrArg Duty.isTaken (present absent))
        exact Nat.le_trans (Nat.le_add_left 1 _) taken
      · exact hr.started l' hl' absent
    · rw [hd] at there
      exact hr.started l' hl' there

theorem Roster.setQueue (hr : w.Roster)
    (shut : l = .requests → q.isOpen = false → (w.duty .requests).isAtWork = false)
    (shorter : q.waiting.length ≤ (w.queue l).waiting.length) : (w.setQueue l q).Roster := by
  by_cases hl : .requests = l
  · subst hl
    have here : (w.setQueue .requests q).queue .requests = q := setQueue_self
    refine { hr with shut := ?_, waiting := ?_, taken := ?_ }
    · rw [here]
      exact shut rfl
    · rw [here]
      exact Nat.le_trans shorter hr.waiting
    · intro ht
      rw [here]
      exact Nat.le_trans (Nat.succ_le_succ shorter) (hr.taken ht)
  · have elsewhere : (w.setQueue l q).queue .requests = w.queue .requests := setQueue_other hl
    refine { hr with shut := ?_, waiting := ?_, taken := ?_ } <;> rw [elsewhere]
    · exact hr.shut
    · exact hr.waiting
    · exact hr.taken

theorem asked_ask (job : Job) (w : Crew) : (w.ask job).asked = w.asked ++ [job] := by
  unfold ask
  dsimp only
  split <;> rfl

theorem requested_ask (job : Job) (w : Crew) :
    (w.ask job).requested = w.requested + if job.lane = .requests then 1 else 0 := by
  rw [requested, asked_ask, List.countP_append, List.countP_singleton]
  simp [requested]

theorem Roster.ask (hr : w.Roster) (job : Job) : (w.ask job).Roster := by
  have duty : (w.ask job).duty = w.duty := by
    unfold Crew.ask
    dsimp only
    split <;> rfl
  have doors : ((w.ask job).queue .requests).isOpen = (w.queue .requests).isOpen := by
    unfold Crew.ask
    dsimp only
    split
    · rfl
    · by_cases hl : .requests = job.lane
      · rw [← hl, setQueue_self]
      · rw [setQueue_other hl]
  have longer : ((w.ask job).queue .requests).waiting.length ≤
      (w.queue .requests).waiting.length + if job.lane = .requests then 1 else 0 := by
    unfold Crew.ask
    dsimp only
    split
    · exact Nat.le_add_right _ _
    · by_cases hl : .requests = job.lane
      · rw [← hl, setQueue_self, if_pos rfl, List.length_append]
        exact Nat.le_refl _
      · rw [setQueue_other hl]
        exact Nat.le_add_right _ _
  have more := requested_ask job w
  constructor
  case opener => exact duty ▸ hr.opener
  case alone => exact duty ▸ hr.alone
  case starter => exact duty ▸ hr.starter
  case charged => exact duty ▸ hr.charged
  case shut =>
    rw [doors, duty]
    exact hr.shut
  case waiting =>
    have before := hr.waiting
    omega
  case taken =>
    intro ht
    have before := hr.taken (duty ▸ ht)
    omega
  case started =>
    intro l hl there
    have before := hr.started l hl (duty ▸ there)
    omega

theorem Roster.dequeue (hr : w.Roster) {e : Errand} {rest : List Errand}
    (next : (w.queue l).waiting = e :: rest) :
    (w.setQueue l { w.queue l with waiting := rest }).Roster := by
  refine hr.setQueue ?_ ?_
  · rintro rfl
    exact hr.shut
  · rw [next]
    exact Nat.le_succ _

/-- A task gives up, or goes on to do so. -/
theorem Roster.retire (hr : w.Roster) {before : Duty} (was : w.duty l = before)
    (present : before ≠ .absent) (opened : before.hasOpened = true → d = .gone)
    (now : d ≠ .absent) (idle : d.isAtWork = false) (charged : d.lanes ⊆ l.charge) :
    (w.setDuty l d).Roster := by
  subst was
  have untaken : d.isTaken = false := by cases d <;> first | rfl | cases idle
  refine hr.setDuty (fun absent => absurd absent present) ?_ now ?_ charged ?_ ?_
  · intro before
    rw [opened before]
    rfl
  · rintro rfl
    cases idle
  · intro _ working
    cases idle.symm.trans working
  · intro _ taken
    cases untaken.symm.trans taken

theorem Works.roster (h : w.Works w') (hr : w.Roster) : w'.Roster := by
  cases h with
  | take l e rest idle next =>
    refine (hr.dequeue next).setDuty ?_ ?_ Duty.noConfusion Duty.noConfusion (List.nil_subset _)
      ?_ ?_
    · intro absent
      cases idle.symm.trans absent
    · intro opened
      cases (congrArg Duty.hasOpened idle).symm.trans opened
    · intro _ _
      exact congrArg Duty.isAtWork idle
    · rintro rfl _
      have before := hr.waiting
      rw [next] at before
      rwa [setQueue_self]
  | quit l idle forced unasked =>
    exact hr.retire idle Duty.noConfusion Bool.noConfusion Duty.noConfusion rfl (List.Subset.refl _)
  | finish l e c busy yields =>
    have taken : l = .requests → (w.queue .requests).waiting.length + 1 ≤ w.requested := by
      rintro rfl
      exact hr.taken (congrArg Duty.isTaken busy)
    refine Roster.setDuty (w := w.answer e c) { hr with } ?_ ?_ (l.next_ne_absent c) ?_ ?_
      (fun _ _ => congrArg Duty.isAtWork busy) (fun hl _ => taken hl)
    · intro absent
      cases busy.symm.trans absent
    · intro opened
      cases (congrArg Duty.hasOpened busy).symm.trans opened
    · unfold Lane.next
      split
      · exact fun _ => rfl
      · exact Duty.noConfusion
    · unfold Lane.next
      split
      · split
        · exact List.nil_subset _
        · exact List.Subset.refl _
      · exact List.nil_subset _
  | start l starting absent =>
    have other : l ≠ .requests := by
      rintro rfl
      cases starting.symm.trans absent
    refine hr.setDuty (fun _ => starting) ?_ Duty.noConfusion Duty.noConfusion (List.nil_subset _)
      (fun opener => absurd opener other) (fun opener => absurd opener other)
    intro opened
    cases (congrArg Duty.hasOpened absent).symm.trans opened
  | withdraw starting present =>
    have left : (w.setDuty .requests .gone).Roster :=
      hr.retire starting Duty.noConfusion (fun _ => rfl) Duty.noConfusion rfl (List.nil_subset _)
    refine left.setQueue (fun _ _ => ?_) (Nat.zero_le _)
    rw [setDuty_self]
    rfl
  | close l l' lanes closing =>
    have charged : l' :: lanes ⊆ l.charge := by
      have all := hr.charged l
      rwa [closing] at all
    have shut : (w.setQueue l' { w.queue l' with isOpen := false }).Roster := by
      refine hr.setQueue ?_ (Nat.le_refl _)
      rintro rfl _
      have opener := Lane.requests_mem_charge (charged List.mem_cons_self)
      rw [← opener, closing]
      rfl
    exact shut.retire closing Duty.noConfusion Bool.noConfusion Duty.noConfusion rfl
      (List.Subset.trans (List.subset_cons_self l' lanes) charged)
  | closed l closing =>
    exact hr.retire closing Duty.noConfusion Bool.noConfusion Duty.noConfusion rfl
      (List.Subset.refl _)
  | drain l l' lanes e rest draining next =>
    have emptied := hr.dequeue next
    exact { emptied with }
  | drained l l' lanes draining empty =>
    have charged : l' :: lanes ⊆ l.charge := by
      have all := hr.charged l
      rwa [draining] at all
    exact hr.retire draining Duty.noConfusion Bool.noConfusion Duty.noConfusion rfl
      (List.Subset.trans (List.subset_cons_self l' lanes) charged)
  | leave l draining =>
    exact hr.retire draining Duty.noConfusion Bool.noConfusion Duty.noConfusion rfl
      (List.nil_subset _)

theorem Moves.roster (h : w.Moves w') (hr : w.Roster) : w'.Roster := by
  cases h with
  | issue op =>
    unfold Crew.issue
    split
    · exact hr.ask _
    · exact { hr with }
  | work hw => exact hw.roster hr

theorem Reached.roster (h : w.Reached) : w.Roster := by
  induction h with
  | refl => exact roster_opening
  | tail _ hm ih => exact hm.roster ih

end Crew

/-- What a task has to do for a queue that is left to it: once it has given up, the queue gets
closed and then emptied. -/
def Duty.Minds (d : Duty) (l : Lane) (q : Queue) : Prop :=
  match d with
  | .absent => False
  | .idle | .busy _ | .starting => True
  | .closing lanes => l ∈ lanes ∨ q.isOpen = false
  | .draining lanes => q.isOpen = false ∧ (l ∈ lanes ∨ q.waiting = [])
  | .gone => q.isOpen = false ∧ q.waiting = []

theorem Lane.next_minds (l : Lane) (c : Completion) {l' : Lane} (charged : l' ∈ l.charge)
    (q : Queue) : (l.next c).Minds l' q := by
  unfold next
  split
  · split
    · trivial
    · exact .inl charged
  · trivial

/-- A queue that is closed stays so, and nothing is put into it. -/
theorem Duty.Minds.mono {d : Duty} {l : Lane} {q q' : Queue} (h : d.Minds l q)
    (hq : q.isOpen = false → q'.isOpen = false ∧ (q.waiting = [] → q'.waiting = [])) :
    d.Minds l q' := by
  cases d with
  | absent => exact h
  | idle | busy | starting => trivial
  | closing lanes => exact h.imp_right fun closed => (hq closed).1
  | draining lanes =>
    obtain ⟨closed, rest⟩ := h
    exact ⟨(hq closed).1, rest.imp_right (hq closed).2⟩
  | gone =>
    obtain ⟨closed, empty⟩ := h
    exact ⟨(hq closed).1, (hq closed).2 empty⟩

namespace Crew

variable {w w' : Crew} {l : Lane} {d : Duty} {q : Queue}

/-- The task that a queue is left to: its own one, or the first as long as there is no other. -/
def minder (w : Crew) (l : Lane) : Duty :=
  match w.duty l with
  | .absent => w.duty .requests
  | d => d

/-- Every queue is seen to. -/
def Kept (w : Crew) : Prop := ∀ l, (w.minder l).Minds l (w.queue l)

theorem minder_absent (h : w.duty l = .absent) : w.minder l = w.duty .requests := by
  rw [minder, h]

theorem minder_present (h : w.duty l ≠ .absent) : w.minder l = w.duty l := by
  unfold minder
  split
  · contradiction
  · rfl

theorem kept_opening : Kept {} := by
  intro l
  cases l <;> trivial

theorem Kept.setQueue (hk : w.Kept) (hq : (w.queue l).isOpen = false →
    q.isOpen = false ∧ ((w.queue l).waiting = [] → q.waiting = [])) : (w.setQueue l q).Kept := by
  intro l'
  by_cases hl : l' = l
  · subst hl
    rw [setQueue_self]
    exact (hk l').mono hq
  · rw [setQueue_other hl]
    exact hk l'

theorem Kept.setDuty (hk : w.Kept) (present : w.duty l ≠ .absent) (now : d ≠ .absent)
    (minds : ∀ l' ∈ l.charge, (w.duty l).Minds l' (w.queue l') → d.Minds l' (w.queue l')) :
    (w.setDuty l d).Kept := by
  have own : l ∈ l.charge := by cases l <;> simp [Lane.charge]
  intro l'
  have old := hk l'
  by_cases hl : l' = l
  · subst hl
    rw [minder_present (by rwa [setDuty_self]), setDuty_self]
    rw [minder_present present] at old
    exact minds l' own old
  · by_cases there : w.duty l' = .absent
    · rw [minder_absent (by rwa [setDuty_other hl])]
      rw [minder_absent there] at old
      by_cases opener : .requests = l
      · subst opener
        rw [setDuty_self]
        exact minds l' (by cases l' <;> simp [Lane.charge]) old
      · rw [setDuty_other opener]
        exact old
    · rw [minder_present (by rwa [setDuty_other hl]), setDuty_other hl]
      rw [minder_present there] at old
      exact old

theorem Kept.ask (hk : w.Kept) (job : Job) : (w.ask job).Kept := by
  unfold Crew.ask
  dsimp only
  split
  · exact hk
  · rename_i taken
    refine Kept.setQueue (w := { w with asked := w.asked ++ [job] }) hk fun closed => ?_
    simp [show (w.queue job.lane).isOpen = false from closed] at taken

theorem Works.kept (h : w.Works w') (hk : w.Kept) : w'.Kept := by
  cases h with
  | take l e rest idle next =>
    have taken : (w.setQueue l { w.queue l with waiting := rest }).Kept :=
      hk.setQueue fun closed => ⟨closed, fun empty => by rw [next] at empty; cases empty⟩
    refine taken.setDuty ?_ Duty.noConfusion fun _ _ _ => trivial
    exact idle.symm ▸ Duty.noConfusion
  | quit l idle forced unasked =>
    refine hk.setDuty ?_ Duty.noConfusion fun l' charged _ => .inl charged
    exact idle.symm ▸ Duty.noConfusion
  | finish l e c busy yields =>
    refine Kept.setDuty (w := w.answer e c) hk ?_ ?_ fun l' charged _ => ?_
    · exact busy.symm ▸ Duty.noConfusion
    · exact l.next_ne_absent c
    · exact l.next_minds c charged _
  | start l starting absent =>
    intro l'
    have old := hk l'
    by_cases hl : l' = l
    · subst hl
      have now : (w.setDuty l' .idle).duty l' = .idle := setDuty_self
      rw [minder_present (now.symm ▸ Duty.noConfusion), now]
      trivial
    · have opener : (w.setDuty l .idle).duty .requests = w.duty .requests := by
        refine setDuty_other ?_
        rintro rfl
        cases starting.symm.trans absent
      rwa [minder, setDuty_other hl, opener]
  | withdraw starting present =>
    have left : ((w.setQueue .requests { isOpen := false }).setDuty .requests .gone).duty
        .requests = .gone := setDuty_self
    intro l
    have old := hk l
    by_cases hl : l = .requests
    · subst hl
      rw [minder_present (left.symm ▸ Duty.noConfusion), left]
      exact ⟨rfl, rfl⟩
    · have same : ((w.setQueue .requests { isOpen := false }).setDuty .requests .gone).duty l =
        w.duty l := setDuty_other hl
      rw [minder_present (same.symm ▸ present l), same]
      rw [minder_present (present l)] at old
      exact (setQueue_other hl).symm ▸ old
  | close l l' lanes closing =>
    have shut : (w.setQueue l' { w.queue l' with isOpen := false }).Kept :=
      hk.setQueue fun _ => ⟨rfl, id⟩
    refine shut.setDuty ?_ Duty.noConfusion fun m charged old => ?_
    · exact closing.symm ▸ Duty.noConfusion
    · rw [show (w.setQueue l' _).duty l = .closing (l' :: lanes) from closing] at old
      by_cases hm : m = l'
      · subst hm
        rw [setQueue_self]
        exact .inr rfl
      · exact old.imp_left fun listed => (List.mem_cons.mp listed).resolve_left hm
  | closed l closing =>
    refine hk.setDuty ?_ Duty.noConfusion fun m charged old => ?_
    · exact closing.symm ▸ Duty.noConfusion
    · rw [closing] at old
      exact ⟨old.resolve_left List.not_mem_nil, .inl charged⟩
  | drain l l' lanes e rest draining next =>
    exact hk.setQueue fun closed => ⟨closed, fun empty => by rw [next] at empty; cases empty⟩
  | drained l l' lanes draining empty =>
    refine hk.setDuty ?_ Duty.noConfusion fun m charged old => ?_
    · exact draining.symm ▸ Duty.noConfusion
    · rw [draining] at old
      obtain ⟨closed, listed | none_left⟩ := old
      · rcases List.mem_cons.mp listed with rfl | listed
        · exact ⟨closed, .inr empty⟩
        · exact ⟨closed, .inl listed⟩
      · exact ⟨closed, .inr none_left⟩
  | leave l draining =>
    refine hk.setDuty ?_ Duty.noConfusion fun m charged old => ?_
    · exact draining.symm ▸ Duty.noConfusion
    · rw [draining] at old
      exact ⟨old.1, old.2.resolve_left List.not_mem_nil⟩

/-- The first task has given up, and the other two were never started. -/
def GivenUp (w : Crew) : Prop :=
  (w.duty .requests).isAtWork = false ∧ ∀ l, l ≠ .requests → w.duty l = .absent

/-- All that holds of a link at any time. -/
structure Sound (w : Crew) : Prop where
  accounted : w.Accounted
  roster : w.Roster
  kept : w.Kept
  failed : w.Failed → w.cancelled = true ∨ w.GivenUp

theorem sound_opening : Sound {} where
  accounted := accounted_opening
  roster := roster_opening
  kept := kept_opening
  failed := by
    rintro ⟨_, ⟨⟩, -⟩

theorem Sound.ask (h : w.Sound) (job : Job) (once : (w.ask job).requested ≤ 1) :
    (w.ask job).Sound := by
  refine ⟨h.accounted.ask job, h.roster.ask job, h.kept.ask job, ?_⟩
  rw [requested_ask] at once
  unfold Crew.ask
  dsimp only
  split
  · rename_i refused
    rintro ⟨a, ha, lane, unestablished⟩
    rcases List.mem_append.mp ha with old | new
    · exact h.failed ⟨a, old, lane, unestablished⟩
    · -- A request that is refused comes after the door was closed, and is the only one.
      obtain rfl := List.mem_singleton.mp new
      have lane : job.lane = .requests := lane
      rw [lane, if_pos rfl] at once
      rcases Bool.or_eq_true_iff.mp refused with forced | closed
      · exact .inl forced
      · rw [lane, Bool.not_eq_true'] at closed
        refine .inr ⟨h.roster.shut closed, fun l hl => ?_⟩
        by_contra there
        have before := h.roster.started l hl there
        omega
  · exact h.failed

theorem GivenUp.setDuty (hg : w.GivenUp) (idle : d.isAtWork = false) :
    (w.setDuty .requests d).GivenUp := by
  refine ⟨?_, fun l hl => ?_⟩
  · rw [setDuty_self]
    exact idle
  · rw [setDuty_other hl]
    exact hg.2 l hl

theorem GivenUp.not_idle (hg : w.GivenUp) (l : Lane) : w.duty l ≠ .idle := by
  intro idle
  by_cases hl : l = .requests
  · subst hl
    cases (congrArg Duty.isAtWork idle).symm.trans hg.1
  · cases idle.symm.trans (hg.2 l hl)

theorem Works.givenUp (h : w.Works w') (hg : w.GivenUp) : w'.GivenUp := by
  -- Only the first task can still do something, and it only gives up.
  have opener {l : Lane} {d : Duty} (hd : w.duty l = d) (present : d ≠ .absent) :
      l = .requests ∧ d.isAtWork = false := by
    have hl : l = .requests := by
      by_contra hl
      exact present (hd.symm.trans (hg.2 l hl))
    subst hl
    exact ⟨rfl, hd ▸ hg.1⟩
  cases h with
  | take l e rest idle next => cases (opener idle Duty.noConfusion).2
  | quit l idle forced unasked => cases (opener idle Duty.noConfusion).2
  | finish l e c busy yields => cases (opener busy Duty.noConfusion).2
  | start l starting absent => cases (opener starting Duty.noConfusion).2
  | withdraw starting present => cases (opener starting Duty.noConfusion).2
  | close l l' lanes closing =>
    obtain ⟨rfl, -⟩ := opener closing Duty.noConfusion
    exact GivenUp.setDuty (w := w.setQueue l' _) hg rfl
  | closed l closing =>
    obtain ⟨rfl, -⟩ := opener closing Duty.noConfusion
    exact hg.setDuty rfl
  | drain l l' lanes e rest draining next => exact hg
  | drained l l' lanes draining empty =>
    obtain ⟨rfl, -⟩ := opener draining Duty.noConfusion
    exact hg.setDuty rfl
  | leave l draining =>
    obtain ⟨rfl, -⟩ := opener draining Duty.noConfusion
    exact hg.setDuty rfl

/-- A request that fails makes the first task give up, before there is any other. -/
theorem Works.failed (h : w.Works w') (hs : w.Sound) (hf : w'.Failed) :
    w.Failed ∨ w'.GivenUp := by
  obtain ⟨a, ha, lane, unestablished⟩ := hf
  have alone {d : Duty} (hd : w.duty .requests = d) (unopened : d.hasOpened = false) (l : Lane)
      (hl : l ≠ .requests) : w.duty l = .absent :=
    hs.roster.alone (hd ▸ unopened) l hl
  cases h with
  | finish l e c busy yields =>
    rcases List.mem_append.mp ha with old | new
    · exact .inl ⟨a, old, lane, unestablished⟩
    · obtain rfl := List.mem_singleton.mp new
      have own : e.job.lane = l :=
        hs.accounted.filed l e (by rw [pending, busy]; exact List.mem_append_right _ (.head _))
      obtain rfl : .requests = l := lane.symm.trans own
      have gives_up : Lane.next .requests c = .closing (Lane.charge .requests) :=
        if_neg (Bool.eq_false_iff.mp unestablished)
      refine .inr ⟨?_, fun l hl => ?_⟩
      · rw [setDuty_self, gives_up]
        rfl
      · rw [setDuty_other hl]
        exact alone busy rfl l hl
  | drain l l' lanes e rest draining next =>
    rcases List.mem_append.mp ha with old | new
    · exact .inl ⟨a, old, lane, unestablished⟩
    · obtain rfl := List.mem_singleton.mp new
      have own : e.job.lane = l' :=
        hs.accounted.filed l' e (by rw [pending, next]; exact .head _)
      obtain rfl : .requests = l' := lane.symm.trans own
      have charged : .requests ∈ l.charge :=
        hs.roster.charged l (by rw [draining]; exact .head _)
      obtain rfl := Lane.requests_mem_charge charged
      refine .inr ⟨?_, alone draining rfl⟩
      exact congrArg Duty.isAtWork draining
  | _ => exact .inl ⟨a, ha, lane, unestablished⟩

theorem Works.cancelled (h : w.Works w') : w'.cancelled = w.cancelled := by
  cases h <;> rfl

theorem Works.asked (h : w.Works w') : w'.asked = w.asked := by
  cases h <;> rfl

theorem Sound.work (h : w.Sound) (hw : w.Works w') (once : w.requested ≤ 1) : w'.Sound := by
  have unasked (starting : w.duty .requests = .starting) : (w.queue .requests).waiting = [] := by
    have taken := h.roster.taken (congrArg Duty.isTaken starting)
    exact List.eq_nil_of_length_eq_zero (by omega)
  refine ⟨hw.accounted h.accounted unasked, hw.roster h.roster, hw.kept h.kept, ?_⟩
  intro failed
  rw [hw.cancelled]
  rcases hw.failed h failed with before | now
  · exact (h.failed before).imp_right hw.givenUp
  · exact .inr now

theorem Moves.requested (h : w.Moves w') : w.requested ≤ w'.requested := by
  cases h with
  | issue op =>
    unfold Crew.issue
    split
    · rw [requested_ask]
      exact Nat.le_add_right _ _
    · exact Nat.le_refl _
  | work hw => exact Nat.le_of_eq (congrArg (List.countP _) hw.asked.symm)

theorem Sound.move (h : w.Sound) (hm : w.Moves w') (once : w'.requested ≤ 1) : w'.Sound := by
  have before := Nat.le_trans hm.requested once
  cases hm with
  | issue op =>
    unfold issue at once ⊢
    split
    · rename_i job hj
      simp only [hj] at once
      exact h.ask job once
    · exact ⟨⟨h.accounted.filed, h.accounted.account, h.accounted.kinds⟩,
        { h.roster with }, h.kept, fun _ => .inl rfl⟩
  | work hw => exact h.work hw before

theorem Reached.sound (h : w.Reached) (once : w.requested ≤ 1) : w.Sound := by
  induction h with
  | refl => exact sound_opening
  | tail _ hm ih => exact (ih (Nat.le_trans hm.requested once)).move hm once

/-- A task that rests was never started, waits, or is over. -/
theorem Rests.duty (rest : w.Rests) (hr : w.Roster) (l : Lane) :
    w.duty l = .absent ∨ w.duty l = .idle ∨ w.duty l = .gone := by
  cases hd : w.duty l with
  | absent => exact .inl rfl
  | idle => exact .inr (.inl rfl)
  | gone => exact .inr (.inr rfl)
  | busy e => exact absurd (.finish w l e _ hd (e.job.failed_yields .aborted)) (rest _)
  | starting =>
    obtain rfl := hr.starter l hd
    have present (l' : Lane) : w.duty l' ≠ .absent := fun absent =>
      rest _ (.start w l' hd absent)
    exact absurd (.withdraw w hd present) (rest _)
  | closing lanes =>
    cases lanes with
    | nil => exact absurd (.closed w l hd) (rest _)
    | cons l' lanes => exact absurd (.close w l l' lanes hd) (rest _)
  | draining lanes =>
    cases lanes with
    | nil => exact absurd (.leave w l hd) (rest _)
    | cons l' lanes =>
      cases next : (w.queue l').waiting with
      | nil => exact absurd (.drained w l l' lanes hd next) (rest _)
      | cons e waiting => exact absurd (.drain w l l' lanes e waiting hd next) (rest _)

theorem rests_of_gone (h : ∀ l, w.duty l = .absent ∨ w.duty l = .gone) : w.Rests := by
  intro w' hw
  have still {l : Lane} {d : Duty} (hd : w.duty l = d) (present : d ≠ .absent) : d = .gone :=
    hd.symm.trans ((h l).resolve_left (hd ▸ present))
  cases hw with
  | take l e rest idle next => cases still idle Duty.noConfusion
  | quit l idle forced unasked => cases still idle Duty.noConfusion
  | finish l e c busy yields => cases still busy Duty.noConfusion
  | start l starting absent => cases still starting Duty.noConfusion
  | withdraw starting present => cases still starting Duty.noConfusion
  | close l l' lanes closing => cases still closing Duty.noConfusion
  | closed l closing => cases still closing Duty.noConfusion
  | drain l l' lanes e rest draining next => cases still draining Duty.noConfusion
  | drained l l' lanes draining empty => cases still draining Duty.noConfusion
  | leave l draining => cases still draining Duty.noConfusion

/-- Nothing is left of a link that was forced closed or could not be established. -/
theorem Sound.settled (h : w.Sound) (rest : w.Rests) (hc : w.cancelled = true ∨ w.Failed)
    (l : Lane) : w.pending l = [] := by
  have up (l : Lane) : w.duty l ≠ .idle := by
    intro idle
    rcases hc.elim .inl h.failed with forced | given_up
    · cases next : (w.queue l).waiting with
      | nil => exact rest _ (.quit w l idle forced fun _ => next)
      | cons e waiting => exact rest _ (.take w l e waiting idle next)
    · exact given_up.not_idle l idle
  have done (l : Lane) : w.duty l = .absent ∨ w.duty l = .gone :=
    (rest.duty h.roster l).imp_right fun at_rest => at_rest.resolve_left (up l)
  have opener : w.duty .requests = .gone := (done .requests).resolve_left h.roster.opener
  have minder : w.minder l = .gone := by
    rcases done l with absent | gone
    · rw [minder_absent absent, opener]
    · rw [minder_present (gone.symm ▸ Duty.noConfusion), gone]
  have kept := h.kept l
  rw [minder] at kept
  have hand : (w.duty l).hand = [] := by
    rcases done l with absent | gone
    · rw [absent]
      rfl
    · rw [gone]
      rfl
  rw [pending, kept.2, hand]
  rfl

theorem Accounted.asked_of_answered (h : w.Accounted) {a : Errand × Completion}
    (ha : a ∈ w.answers) : w.asked[a.1.number]? = some a.1.job := by
  have answered : 0 < (w.answers.map (·.1)).count a.1 :=
    List.count_pos_iff.mpr (List.mem_map_of_mem ha)
  have account := h.account a.1
  by_contra unasked
  rw [timesAsked, if_neg unasked] at account
  omega

/-- An errand is known by its number. -/
theorem Accounted.answersTo_length (h : w.Accounted) {n : Nat} {job : Job}
    (hj : w.asked[n]? = some job) :
    (w.answersTo n).length = (w.answers.map (·.1)).count ⟨job, n⟩ := by
  rw [answersTo, List.length_map, ← List.countP_eq_length_filter, List.count, List.countP_map]
  refine List.countP_congr fun a ha => ?_
  have asked := h.asked_of_answered ha
  obtain ⟨⟨job', n'⟩, c⟩ := a
  simp only [decide_eq_true_eq, Function.comp_apply, beq_iff_eq, Errand.mk.injEq]
  constructor
  · rintro rfl
    exact ⟨Option.some.inj (asked.symm.trans hj), rfl⟩
  · exact fun same => same.2

theorem mem_answersTo {n : Nat} {c : Completion} :
    c ∈ w.answersTo n ↔ ∃ a ∈ w.answers, a.1.number = n ∧ a.2 = c := by
  simp only [answersTo, List.mem_map, List.mem_filter, decide_eq_true_eq, and_assoc]

theorem Accounted.answersTo_le (h : w.Accounted) (n : Nat) : (w.answersTo n).length ≤ 1 := by
  cases hj : w.asked[n]? with
  | none =>
    have nothing : w.answersTo n = [] := by
      refine List.eq_nil_iff_forall_not_mem.mpr fun c hc => ?_
      obtain ⟨a, ha, rfl, -⟩ := mem_answersTo.mp hc
      cases hj.symm.trans (h.asked_of_answered ha)
    rw [nothing]
    exact Nat.zero_le 1
  | some job =>
    have account := h.account ⟨job, n⟩
    have once : timesAsked w.asked ⟨job, n⟩ = 1 := if_pos hj
    rw [h.answersTo_length hj]
    omega

/-- Whatever is asked of a link, with one request for the WebSocket at most, and however its tasks
go about it: only what was asked for is answered, in its own kind and never twice; and once the link
was forced closed or the WebSocket could not be established, and no task has anything left to do,
all that was asked for has been answered. -/
theorem answers_once (h : w.Reached) (once : w.requested ≤ 1) :
    (∀ a ∈ w.answers, w.asked[a.1.number]? = some a.1.job ∧ a.2.kind? = some a.1.job.kind) ∧
      (∀ n, (w.answersTo n).length ≤ 1) ∧
      (w.Rests → w.cancelled = true ∨ w.Failed → ∀ n job, w.asked[n]? = some job →
        ∃ c, w.answersTo n = [c] ∧ c.kind? = some job.kind) := by
  have sound := h.sound once
  have known (a : Errand × Completion) (ha : a ∈ w.answers) :
      w.asked[a.1.number]? = some a.1.job ∧ a.2.kind? = some a.1.job.kind :=
    ⟨sound.accounted.asked_of_answered ha, sound.accounted.kinds a ha⟩
  refine ⟨known, sound.accounted.answersTo_le, fun rest hc n job hj => ?_⟩
  have account := sound.accounted.account ⟨job, n⟩
  rw [sound.settled rest hc, List.count_nil, Nat.zero_add, ← sound.accounted.answersTo_length hj,
    timesAsked, if_pos hj] at account
  obtain ⟨c, only⟩ := List.length_eq_one_iff.mp account
  refine ⟨c, only, ?_⟩
  obtain ⟨a, ha, number, rfl⟩ := mem_answersTo.mp (only ▸ List.mem_singleton_self c)
  obtain ⟨asked, kind⟩ := known a ha
  rw [number, hj] at asked
  rw [kind, Option.some.inj asked]

/-- The upgrade fails while a read waits, and a ping comes in before all queues are closed. -/
theorem stumbled_answers_once :
    ∃ w : Crew, w.Reached ∧ w.requested ≤ 1 ∧ w.Rests ∧ w.Failed ∧
      w.asked = [.establish (.accept {}), .read, .send (.ping [])] ∧
      ∀ n job, w.asked[n]? = some job → ∃ c, w.answersTo n = [c] ∧ c.kind? = some job.kind := by
  have asked : Reached _ := ((Relation.ReflTransGen.refl (r := Moves)).tail
    (.issue {} (.accept {}))).tail (.issue _ .read)
  have taken := asked.tail (.work (.take _ .requests ⟨.establish (.accept {}), 0⟩ [] rfl rfl))
  have failed := taken.tail
    (.work (.finish _ .requests _ _ rfl (.accepted {} (.error .closed))))
  have pinged := (failed.tail (.work (.close _ .requests .requests [.reads, .sendings] rfl))).tail
    (.issue _ (.ping []))
  have closed := ((pinged.tail (.work (.close _ .requests .reads [.sendings] rfl))).tail
    (.work (.close _ .requests .sendings [] rfl))).tail (.work (.closed _ .requests rfl))
  have emptied := ((closed.tail
    (.work (.drained _ .requests .requests [.reads, .sendings] rfl rfl))).tail
    (.work (.drain _ .requests .reads [.sendings] ⟨.read, 1⟩ [] rfl rfl))).tail
    (.work (.drained _ .requests .reads [.sendings] rfl rfl))
  have left := ((emptied.tail
    (.work (.drain _ .requests .sendings [] ⟨.send (.ping []), 2⟩ [] rfl rfl))).tail
    (.work (.drained _ .requests .sendings [] rfl rfl))).tail (.work (.leave _ .requests rfl))
  obtain ⟨w, reached, once, done, failed, asked⟩ :
      ∃ w : Crew, w.Reached ∧ w.requested ≤ 1 ∧
        (∀ l, w.duty l = .absent ∨ w.duty l = .gone) ∧ w.Failed ∧
        w.asked = [.establish (.accept {}), .read, .send (.ping [])] := by
    refine ⟨_, left, Nat.le_refl 1, fun l => ?_, ⟨_, .head _, rfl, rfl⟩, rfl⟩
    cases l with
    | requests => exact .inr rfl
    | reads | sendings => exact .inl rfl
  have rests := rests_of_gone done
  exact ⟨w, reached, once, rests, failed, asked,
    (answers_once reached once).2.2 rests (.inr failed)⟩

end Crew

end Parley

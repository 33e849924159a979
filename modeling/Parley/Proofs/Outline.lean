import Mathlib.Data.List.Basic
import Parley.Proofs.Roster

namespace Parley

/-- What can be seen of a link: what waits in its queues, which of them are open, and what its tasks
are at. -/
@[ext]
structure Outline where
  jobs : Lane → List Job
  takes : Lane → Bool
  duty : Lane → Duty
  cancelled : Bool
  dropped : Bool

/-- The number of an errand does not show. -/
def Duty.unnumbered : Duty → Duty
  | .busy e => .busy ⟨e.job, 0⟩
  | d => d

theorem Duty.eq_of_unnumbered {d d' : Duty} (h : d.unnumbered = d') (free : d'.hand = []) :
    d = d' := by
  cases d with
  | busy e =>
    subst h
    cases free
  | _ => exact h

theorem Duty.busy_of_unnumbered {d : Duty} {job : Job} (h : d.unnumbered = .busy ⟨job, 0⟩) :
    ∃ n, d = .busy ⟨job, n⟩ := by
  cases d with
  | busy e =>
    obtain ⟨job', n⟩ := e
    cases h
    exact ⟨n, rfl⟩
  | _ => cases h

theorem Lane.next_unnumbered (l : Lane) (c : Completion) : (l.next c).unnumbered = l.next c := by
  unfold next
  split
  · split <;> rfl
  · rfl

/-- A task has given up what was left to it. -/
def Outline.givenUp (l : Lane) (o : Outline) : Outline :=
  { o with
    jobs := fun m => if m ∈ l.charge then [] else o.jobs m
    takes := fun m => if m ∈ l.charge then false else o.takes m
    duty := Function.update o.duty l .gone }

/-- What giving up comes to. -/
def Outline.aborts (l : Lane) (o : Outline) : List Completion :=
  l.charge.flatMap fun m => (o.jobs m).map (·.failed .aborted)

/-- A session asks for something. -/
def Outline.ask (job : Job) (o : Outline) : Outline :=
  if o.cancelled || !o.takes job.lane then o
  else { o with jobs := Function.update o.jobs job.lane (o.jobs job.lane ++ [job]) }

/-- What it is told at once. -/
def Outline.refuses (job : Job) (o : Outline) : List Completion :=
  if o.cancelled || !o.takes job.lane then [job.failed .aborted] else []

namespace Crew

variable {w w' w'' : Crew} {l : Lane} {d : Duty} {q : Queue}

def outline (w : Crew) : Outline where
  jobs l := (w.queue l).waiting.map (·.job)
  takes l := (w.queue l).isOpen
  duty l := (w.duty l).unnumbered
  cancelled := w.cancelled
  dropped := false

theorem setDuty_outline : (w.setDuty l d).outline =
    { w.outline with duty := Function.update w.outline.duty l d.unnumbered } := by
  refine Outline.ext rfl rfl ?_ rfl rfl
  exact Function.comp_update Duty.unnumbered w.duty l d

theorem setQueue_outline : (w.setQueue l q).outline =
    { w.outline with
      jobs := Function.update w.outline.jobs l (q.waiting.map (·.job))
      takes := Function.update w.outline.takes l q.isOpen } := by
  refine Outline.ext ?_ ?_ rfl rfl rfl
  · exact Function.comp_update (fun q : Queue => q.waiting.map (·.job)) w.queue l q
  · exact Function.comp_update Queue.isOpen w.queue l q

theorem ask_outline (job : Job) (w : Crew) : (w.ask job).outline = w.outline.ask job := by
  have shut : (w.outline.cancelled || !w.outline.takes job.lane) =
    (w.cancelled || !(w.queue job.lane).isOpen) := rfl
  unfold ask Outline.ask
  rw [shut]
  dsimp only
  split
  · rfl
  · rw [setQueue_outline]
    refine Outline.ext ?_ (Function.update_eq_self job.lane _) rfl rfl rfl
    simp [outline]

theorem ask_answers (job : Job) (w : Crew) :
    (w.ask job).answers.map (·.2) = w.answers.map (·.2) ++ w.outline.refuses job := by
  have shut : (w.outline.cancelled || !w.outline.takes job.lane) =
    (w.cancelled || !(w.queue job.lane).isOpen) := rfl
  unfold ask Outline.refuses
  rw [shut]
  dsimp only
  split
  · simp [answer]
  · exact (List.append_nil _).symm

/-- The tasks come to this by themselves, with these completions. -/
structure Comes (w w' : Crew) (completions : List Completion) : Prop where
  run : Relation.ReflTransGen Works w w'
  answers : w'.answers.map (·.2) = w.answers.map (·.2) ++ completions

variable {cs cs' : List Completion}

theorem Comes.trans (h : w.Comes w' cs) (h' : w'.Comes w'' cs') : w.Comes w'' (cs ++ cs') where
  run := h.run.trans h'.run
  answers := by rw [h'.answers, h.answers, List.append_assoc]

theorem Comes.moves (h : w.Comes w' cs) : Relation.ReflTransGen Moves w w' :=
  h.run.lift id fun _ _ step => .work step

theorem Comes.asked (h : w.Comes w' cs) : w'.asked = w.asked := by
  obtain ⟨run, -⟩ := h
  induction run with
  | refl => rfl
  | tail _ step ih => exact step.asked.trans ih

theorem Works.quiet (h : w.Works w') (same : w'.answers = w.answers) : w.Comes w' [] where
  run := .single h
  answers := by rw [same, List.append_nil]

theorem Works.answering {e : Errand} {c : Completion} (h : w.Works w')
    (answer : w'.answers = w.answers ++ [(e, c)]) : w.Comes w' [c] where
  run := .single h
  answers := by rw [answer, List.map_append, List.map_singleton]

theorem takes_up (job : Job) (rest : List Job) (idle : w.outline.duty l = .idle)
    (next : w.outline.jobs l = job :: rest) :
    ∃ w', w.Comes w' [] ∧ w'.outline =
      { w.outline with
        jobs := Function.update w.outline.jobs l rest
        duty := Function.update w.outline.duty l (.busy ⟨job, 0⟩) } := by
  obtain ⟨e, es, waiting, rfl, rfl⟩ := List.map_eq_cons_iff.mp next
  refine ⟨_, (Works.take w l e es (Duty.eq_of_unnumbered idle rfl) waiting).quiet rfl, ?_⟩
  rw [setDuty_outline, setQueue_outline]
  exact Outline.ext rfl (Function.update_eq_self l _) rfl rfl rfl

theorem finishes {job : Job} {c : Completion} (busy : w.outline.duty l = .busy ⟨job, 0⟩)
    (yields : job.Yields c) :
    ∃ w', w.Comes w' [c] ∧
      w'.outline = { w.outline with duty := Function.update w.outline.duty l (l.next c) } := by
  obtain ⟨n, duty⟩ := Duty.busy_of_unnumbered busy
  refine ⟨_, (Works.finish w l ⟨job, n⟩ c duty yields).answering rfl, ?_⟩
  rw [setDuty_outline, Lane.next_unnumbered]
  rfl

theorem shuts {l' : Lane} {lanes : List Lane}
    (closing : w.outline.duty l = .closing (l' :: lanes)) :
    ∃ w', w.Comes w' [] ∧ w'.outline =
      { w.outline with
        takes := Function.update w.outline.takes l' false
        duty := Function.update w.outline.duty l (.closing lanes) } := by
  have duty := Duty.eq_of_unnumbered closing rfl
  refine ⟨_, (Works.close w l l' lanes duty).quiet rfl, ?_⟩
  rw [setDuty_outline, setQueue_outline]
  exact Outline.ext (Function.update_eq_self l' _) rfl rfl rfl rfl

/-- The queues are closed one by one. -/
theorem closes {lanes : List Lane} (closing : w.outline.duty l = .closing lanes) :
    ∃ w', w.Comes w' [] ∧ w'.outline =
      { w.outline with
        takes := fun m => if m ∈ lanes then false else w.outline.takes m
        duty := Function.update w.outline.duty l (.draining l.charge) } := by
  induction lanes generalizing w with
  | nil =>
    have duty := Duty.eq_of_unnumbered closing rfl
    refine ⟨_, (Works.closed w l duty).quiet rfl, ?_⟩
    rw [setDuty_outline]
    simp [Duty.unnumbered]
  | cons l' lanes ih =>
    obtain ⟨w₁, first, looks₁⟩ := shuts closing
    obtain ⟨w', others, looks⟩ := ih (w := w₁) (by rw [looks₁]; exact Function.update_self ..)
    refine ⟨w', first.trans others, ?_⟩
    rw [looks, looks₁]
    refine Outline.ext rfl ?_ (Function.update_idem ..) rfl rfl
    funext m
    by_cases hm : m = l' <;> simp [hm]

theorem drains {l' : Lane} {lanes : List Lane} {job : Job} {rest : List Job}
    (draining : w.outline.duty l = .draining (l' :: lanes))
    (next : w.outline.jobs l' = job :: rest) :
    ∃ w', w.Comes w' [job.failed .aborted] ∧
      w'.outline = { w.outline with jobs := Function.update w.outline.jobs l' rest } := by
  obtain ⟨e, es, waiting, rfl, rfl⟩ := List.map_eq_cons_iff.mp next
  have duty := Duty.eq_of_unnumbered draining rfl
  refine ⟨_, (Works.drain w l l' lanes e es duty waiting).answering rfl, ?_⟩
  refine (setQueue_outline (w := w)).trans ?_
  exact Outline.ext rfl (Function.update_eq_self l' _) rfl rfl rfl

/-- All that waits in a queue is aborted, the oldest first. -/
theorem empties {l' : Lane} {lanes : List Lane} {jobs : List Job}
    (draining : w.outline.duty l = .draining (l' :: lanes)) (waiting : w.outline.jobs l' = jobs) :
    ∃ w', w.Comes w' (jobs.map (·.failed .aborted)) ∧ w'.outline =
      { w.outline with
        jobs := Function.update w.outline.jobs l' []
        duty := Function.update w.outline.duty l (.draining lanes) } := by
  induction jobs generalizing w with
  | nil =>
    have duty := Duty.eq_of_unnumbered draining rfl
    refine ⟨_, (Works.drained w l l' lanes duty (List.map_eq_nil_iff.mp waiting)).quiet rfl, ?_⟩
    rw [setDuty_outline, ← waiting, Function.update_eq_self]
    rfl
  | cons job rest ih =>
    obtain ⟨w₁, first, looks₁⟩ := drains draining waiting
    obtain ⟨w', others, looks⟩ := ih (w := w₁) (by rw [looks₁]; exact draining)
      (by rw [looks₁]; exact Function.update_self ..)
    refine ⟨w', first.trans others, ?_⟩
    rw [looks, looks₁]
    exact Outline.ext (Function.update_idem ..) rfl rfl rfl rfl

/-- The queues are emptied one by one. -/
theorem clears {lanes : List Lane} (draining : w.outline.duty l = .draining lanes)
    (each : lanes.Nodup) :
    ∃ w', w.Comes w' (lanes.flatMap fun m => (w.outline.jobs m).map (·.failed .aborted)) ∧
      w'.outline =
        { w.outline with
          jobs := fun m => if m ∈ lanes then [] else w.outline.jobs m
          duty := Function.update w.outline.duty l .gone } := by
  induction lanes generalizing w with
  | nil =>
    have duty := Duty.eq_of_unnumbered draining rfl
    refine ⟨_, (Works.leave w l duty).quiet rfl, ?_⟩
    rw [setDuty_outline]
    simp [Duty.unnumbered]
  | cons l' lanes ih =>
    obtain ⟨unlisted, each⟩ := List.nodup_cons.mp each
    obtain ⟨w₁, first, looks₁⟩ := empties draining rfl
    obtain ⟨w', others, looks⟩ := ih (w := w₁) (by rw [looks₁]; exact Function.update_self ..) each
    have untouched : (lanes.flatMap fun m => (w₁.outline.jobs m).map (·.failed .aborted)) =
        lanes.flatMap fun m => (w.outline.jobs m).map (·.failed .aborted) := by
      refine List.flatMap_congr fun m hm => ?_
      have other : m ≠ l' := fun same => unlisted (same ▸ hm)
      have same : w₁.outline.jobs m = w.outline.jobs m := by
        rw [looks₁]
        exact Function.update_of_ne other ..
      rw [same]
    refine ⟨w', ?_, ?_⟩
    · rw [List.flatMap_cons, ← untouched]
      exact first.trans others
    · rw [looks, looks₁]
      refine Outline.ext ?_ rfl (Function.update_idem ..) rfl rfl
      funext m
      by_cases hm : m = l' <;> simp [hm]

theorem gives_up (closing : w.outline.duty l = .closing l.charge) :
    ∃ w', w.Comes w' (w.outline.aborts l) ∧ w'.outline = w.outline.givenUp l := by
  obtain ⟨w₁, first, looks₁⟩ := closes closing
  obtain ⟨w', others, looks⟩ := clears (w := w₁) (by rw [looks₁]; exact Function.update_self ..)
    (by cases l <;> decide)
  refine ⟨w', ?_, ?_⟩
  · rw [looks₁] at others
    exact first.trans others
  · rw [looks, looks₁]
    exact Outline.ext rfl rfl (Function.update_idem ..) rfl rfl

/-- A task that waits hears that the link was forced closed. -/
theorem quits (idle : w.outline.duty l = .idle) (forced : w.outline.cancelled = true)
    (unasked : l = .requests → w.outline.jobs l = []) :
    ∃ w', w.Comes w' (w.outline.aborts l) ∧ w'.outline = w.outline.givenUp l := by
  have duty := Duty.eq_of_unnumbered idle rfl
  have first := (Works.quit w l duty forced fun hl => List.map_eq_nil_iff.mp (unasked hl)).quiet rfl
  have looks₁ := setDuty_outline (w := w) (l := l) (d := .closing l.charge)
  obtain ⟨w', others, looks⟩ := gives_up (w := w.setDuty l _)
    (by rw [looks₁]; exact Function.update_self ..)
  refine ⟨w', ?_, ?_⟩
  · rw [looks₁] at others
    exact first.trans others
  · rw [looks, looks₁]
    exact Outline.ext rfl rfl (Function.update_idem ..) rfl rfl

/-- The upgrade fails. -/
theorem misses {job : Job} {c : Completion} (busy : w.outline.duty .requests = .busy ⟨job, 0⟩)
    (yields : job.Yields c) (unestablished : c.upgrades = false) :
    ∃ w', w.Comes w' (c :: w.outline.aborts .requests) ∧
      w'.outline = w.outline.givenUp .requests := by
  obtain ⟨w₁, first, looks₁⟩ := finishes busy yields
  have next : Lane.next .requests c = .closing (Lane.charge .requests) :=
    if_neg (Bool.eq_false_iff.mp unestablished)
  obtain ⟨w', others, looks⟩ := gives_up (w := w₁) (l := .requests)
    (by simp [looks₁, next])
  refine ⟨w', ?_, ?_⟩
  · rw [looks₁] at others
    exact first.trans others
  · rw [looks, looks₁]
    exact Outline.ext rfl rfl (Function.update_idem ..) rfl rfl

theorem starts (starting : w.outline.duty .requests = .starting)
    (absent : w.outline.duty l = .absent) :
    ∃ w', w.Comes w' [] ∧
      w'.outline = { w.outline with duty := Function.update w.outline.duty l .idle } := by
  have opener := Duty.eq_of_unnumbered starting rfl
  have duty := Duty.eq_of_unnumbered absent rfl
  exact ⟨_, (Works.start w l opener duty).quiet rfl, setDuty_outline⟩

theorem withdraws (starting : w.outline.duty .requests = .starting)
    (present : ∀ l, w.outline.duty l ≠ .absent) :
    ∃ w', w.Comes w' [] ∧ w'.outline =
      { w.outline with
        jobs := Function.update w.outline.jobs .requests []
        takes := Function.update w.outline.takes .requests false
        duty := Function.update w.outline.duty .requests .gone } := by
  have opener := Duty.eq_of_unnumbered starting rfl
  have others (l : Lane) (absent : w.duty l = .absent) : False :=
    present l (congrArg Duty.unnumbered absent)
  refine ⟨_, (Works.withdraw w opener others).quiet rfl, ?_⟩
  rw [setDuty_outline, setQueue_outline]
  rfl

/-- The WebSocket is established, and the other two take over. -/
theorem opens {job : Job} {c : Completion} (hr : w.Roster)
    (busy : w.outline.duty .requests = .busy ⟨job, 0⟩) (yields : job.Yields c)
    (established : c.upgrades = true) :
    ∃ w', w.Comes w' [c] ∧ w'.outline =
      { w.outline with
        jobs := Function.update w.outline.jobs .requests []
        takes := Function.update w.outline.takes .requests false
        duty := fun m => if m = .requests then .gone else .idle } := by
  obtain ⟨n, duty⟩ := Duty.busy_of_unnumbered busy
  have alone (m : Lane) (hm : m ≠ .requests) : w.outline.duty m = .absent :=
    congrArg Duty.unnumbered (hr.alone (duty ▸ rfl) m hm)
  have next : Lane.next .requests c = .starting := if_pos established
  obtain ⟨w₁, finished, looks₁⟩ := finishes busy yields
  rw [next] at looks₁
  obtain ⟨w₂, reading, looks₂⟩ := starts (w := w₁) (l := .reads) (by simp [looks₁])
    (by rw [looks₁]; exact alone .reads Lane.noConfusion)
  obtain ⟨w₃, sending, looks₃⟩ := starts (w := w₂) (l := .sendings)
    (by rw [looks₂, looks₁]; rfl)
    (by rw [looks₂, looks₁]; exact alone .sendings Lane.noConfusion)
  obtain ⟨w₄, gone, looks₄⟩ := withdraws (w := w₃)
    (by rw [looks₃, looks₂, looks₁]; rfl)
    (by rw [looks₃, looks₂, looks₁]; intro l; cases l <;> exact Duty.noConfusion)
  refine ⟨w₄, ((finished.trans reading).trans sending).trans gone, ?_⟩
  rw [looks₄, looks₃, looks₂, looks₁]
  refine Outline.ext rfl rfl ?_ rfl rfl
  funext m
  cases m <;> rfl

end Crew

end Parley

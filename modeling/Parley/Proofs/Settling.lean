import Mathlib.Data.List.Perm.Subperm
import Parley.Proofs.Outline

namespace Parley

namespace Link

attribute [simp] takesRequests takesReads takesSendings

@[simp]
def jobs (link : Link) : Lane → List Job
  | .requests => link.requests.map .establish
  | .reads => List.replicate link.reads .read
  | .sendings => link.sendings.map .send

@[simp]
def takes (link : Link) : Lane → Bool
  | .requests => link.takesRequests
  | .reads => link.takesReads
  | .sendings => link.takesSendings

@[simp]
def duty (link : Link) : Lane → Duty
  | .requests =>
    match link.opener with
    | .waiting => .idle
    | .working r => .busy ⟨.establish r, 0⟩
    | .over => .gone
  | .reads =>
    match link.reader with
    | .absent => .absent
    | .idle => .idle
    | .reading => .busy ⟨.read, 0⟩
    | .over => .gone
  | .sendings =>
    match link.writer with
    | .absent => .absent
    | .idle => .idle
    | .writing s => .busy ⟨.send s, 0⟩
    | .over => .gone

@[simp]
def outline (link : Link) : Outline where
  jobs := link.jobs
  takes := link.takes
  duty := link.duty
  cancelled := link.cancelled
  dropped := link.dropped

/-- A task of the link takes a step. What comes of a job is left open. -/
inductive Works : Link → Step → Prop
  | takeRequest {link : Link} {s : Step} (h : link.takeRequest = some s) : Works link s
  | establish {link : Link} {r : Establishing} {c : Completion} (working : link.opener = .working r)
      (yields : (Job.establish r).Yields c) (established : c.upgrades = true) :
    Works link (link.establish c)
  | failEstablishing {link : Link} {r : Establishing} (error : TransportError)
      (working : link.opener = .working r) : Works link (link.failEstablishing error)
  | takeRead {link : Link} {s : Step} (h : link.takeRead = some s) : Works link s
  | finishRead {link : Link} (outcome : Outcome Frame) (reading : link.reader = .reading) :
    Works link (link.finishRead outcome)
  | takeSending {link : Link} {s : Step} (h : link.takeSending = some s) : Works link s
  | finishSending {link : Link} {sending : Sending} (outcome : Outcome Unit)
      (writing : link.writer = .writing sending) : Works link (link.finishSending outcome)

/-- What a link comes to whose session asks for all this and stays, and what it has completed. -/
inductive Runs : List Operation → Link → List Completion → Prop
  | fresh : Runs [] {} []
  | issue {ops : List Operation} {link : Link} {cs : List Completion} (h : Runs ops link cs)
      (op : Operation) :
    Runs (ops ++ [op]) (link.issue op).link (cs ++ (link.issue op).completions)
  | work {ops : List Operation} {link : Link} {cs : List Completion} {s : Step}
      (h : Runs ops link cs) (step : link.Works s) : Runs ops s.link (cs ++ s.completions)

variable {link : Link} {s : Step} {w : Crew}

/-- The reader and the writer are not there before the WebSocket is. -/
theorem alone (hw : w.outline = link.outline) (hr : w.Roster)
    (unopened : (link.duty .requests).hasOpened = false) :
    link.reader = .absent ∧ link.writer = .absent := by
  have shown (l : Lane) : (w.duty l).unnumbered = link.duty l :=
    congrFun (congrArg Outline.duty hw) l
  have opener : (w.duty .requests).hasOpened = false := by
    rw [← shown] at unopened
    cases hd : w.duty .requests <;> rw [hd] at unopened <;> first | rfl | cases unopened
  have reader : link.duty .reads = .absent := by
    rw [← shown, hr.alone opener _ Lane.noConfusion]
    rfl
  have writer : link.duty .sendings = .absent := by
    rw [← shown, hr.alone opener _ Lane.noConfusion]
    rfl
  unfold duty at reader writer
  constructor
  · cases hl : link.reader <;> rw [hl] at reader <;> first | rfl | cases reader
  · cases hl : link.writer <;> rw [hl] at writer <;> first | rfl | cases writer

theorem handed_over (hw : w.outline = link.outline) (hr : w.Roster)
    (present : link.reader = .absent → link.writer = .absent → False) : link.opener = .over := by
  cases hl : link.opener with
  | waiting | working r =>
    obtain ⟨reader, writer⟩ := alone hw hr (by simp [hl, Duty.hasOpened])
    exact (present reader writer).elim
  | _ => rfl

theorem abandon_outline (reader : link.reader = .absent) (writer : link.writer = .absent) :
    link.abandon.link.outline = link.outline.givenUp .requests := by
  refine Outline.ext ?_ ?_ ?_ rfl rfl <;> funext m <;> cases m <;>
    simp [abandon, Outline.givenUp, Lane.charge, reader, writer]

theorem abandon_completions :
    link.abandon.completions = link.outline.aborts .requests := by
  simp [abandon, Outline.aborts, Lane.charge, Job.failed, Function.comp_def]

theorem takeRequest_comes (h : link.takeRequest = some s) (hw : w.outline = link.outline)
    (hr : w.Roster) : ∃ w', w.Comes w' s.completions ∧ w'.outline = s.link.outline := by
  have stays : link.dropped = false := (congrArg Outline.dropped hw).symm
  unfold takeRequest at h
  split at h
  · rename_i r rest waiting requests
    cases h
    obtain ⟨w', comes, looks⟩ := Crew.takes_up (w := w) (l := .requests)
      (.establish r) (rest.map .establish)
      (by simp [hw, waiting]) (by simp [hw, requests])
    refine ⟨w', comes, looks.trans ?_⟩
    rw [hw]
    refine Outline.ext ?_ ?_ ?_ rfl rfl <;> funext m <;> cases m <;> simp [waiting]
  · rename_i waiting requests
    rw [stays, Bool.false_or] at h
    split at h
    · rename_i forced
      cases h
      obtain ⟨reader, writer⟩ := alone hw hr (by simp [waiting, Duty.hasOpened])
      obtain ⟨w', comes, looks⟩ := Crew.quits (w := w) (l := .requests)
        (by simp [hw, waiting]) (by simpa [hw] using forced)
        (by simp [hw, requests])
      rw [hw] at comes looks
      exact ⟨w', abandon_completions ▸ comes, looks.trans (abandon_outline reader writer).symm⟩
    · cases h
  · cases h

theorem establish_comes {r : Establishing} {c : Completion} (working : link.opener = .working r)
    (yields : (Job.establish r).Yields c) (established : c.upgrades = true)
    (hw : w.outline = link.outline) (hr : w.Roster) :
    ∃ w', w.Comes w' [c] ∧ w'.outline = (link.establish c).link.outline := by
  have busy : w.outline.duty .requests = .busy ⟨.establish r, 0⟩ := by
    simp [hw, working]
  obtain ⟨w', comes, looks⟩ := Crew.opens hr busy yields established
  refine ⟨w', comes, looks.trans ?_⟩
  rw [hw]
  refine Outline.ext ?_ ?_ ?_ rfl rfl <;> funext m <;> cases m <;> simp [establish, working]

theorem failEstablishing_comes {r : Establishing} (error : TransportError)
    (working : link.opener = .working r) (hw : w.outline = link.outline) (hr : w.Roster) :
    ∃ w', w.Comes w' (link.failEstablishing error).completions ∧
      w'.outline = (link.failEstablishing error).link.outline := by
  obtain ⟨reader, writer⟩ := alone hw hr (by simp [working, Duty.hasOpened])
  have unestablished : (r.failed error).upgrades = false := by cases r <;> rfl
  obtain ⟨w', comes, looks⟩ := Crew.misses (w := w) (by simp [hw, working])
    ((Job.establish r).failed_yields error) unestablished
  rw [hw] at comes looks
  refine ⟨w', ?_, ?_⟩
  · rw [failEstablishing, working]
    rw [← abandon_completions] at comes
    exact comes
  · rw [failEstablishing, working]
    exact looks.trans (abandon_outline reader writer).symm

theorem takeRead_comes (h : link.takeRead = some s) (hw : w.outline = link.outline)
    (hr : w.Roster) : ∃ w', w.Comes w' s.completions ∧ w'.outline = s.link.outline := by
  have stays : link.dropped = false := (congrArg Outline.dropped hw).symm
  unfold takeRead at h
  split at h
  · rename_i idle
    split at h
    · rename_i forced
      cases h
      have handed := handed_over hw hr (by simp [idle])
      obtain ⟨w', comes, looks⟩ := Crew.quits (w := w) (l := .reads)
        (by simp [hw, idle]) (by simpa [hw] using forced)
        Lane.noConfusion
      rw [hw] at comes looks
      have aborts : link.outline.aborts .reads =
          List.replicate link.reads (.read (.error .aborted)) := by
        simp [Outline.aborts, Lane.charge, Job.failed]
      refine ⟨w', aborts ▸ comes, looks.trans ?_⟩
      refine Outline.ext ?_ ?_ ?_ rfl rfl <;> funext m <;> cases m <;>
        simp [Outline.givenUp, Lane.charge, handed]
    · split at h
      · rename_i unforced some_wait
        cases h
        have next : link.jobs .reads = .read :: List.replicate (link.reads - 1) .read := by
          rw [jobs, ← List.replicate_succ, Nat.sub_add_cancel some_wait]
        obtain ⟨w', comes, looks⟩ := Crew.takes_up (w := w) (l := .reads) _ _
          (by simp [hw, idle]) (by rw [hw]; exact next)
        refine ⟨w', comes, looks.trans ?_⟩
        rw [hw]
        refine Outline.ext ?_ ?_ ?_ rfl rfl <;> funext m <;> cases m <;> simp [idle]
      · rw [stays] at h
        cases h
  · cases h

theorem finishRead_comes (outcome : Outcome Frame) (reading : link.reader = .reading)
    (hw : w.outline = link.outline) :
    ∃ w', w.Comes w' (link.finishRead outcome).completions ∧
      w'.outline = (link.finishRead outcome).link.outline := by
  obtain ⟨w', comes, looks⟩ := Crew.finishes (w := w) (l := .reads)
    (by simp [hw, reading]) (.read outcome)
  rw [finishRead, reading]
  refine ⟨w', comes, looks.trans ?_⟩
  rw [hw]
  refine Outline.ext ?_ ?_ ?_ rfl rfl <;> funext m <;> cases m <;> simp [reading, Lane.next]

theorem takeSending_comes (h : link.takeSending = some s) (hw : w.outline = link.outline)
    (hr : w.Roster) : ∃ w', w.Comes w' s.completions ∧ w'.outline = s.link.outline := by
  have stays : link.dropped = false := (congrArg Outline.dropped hw).symm
  unfold takeSending at h
  split at h
  · rename_i idle
    split at h
    · rename_i forced
      cases h
      have handed := handed_over hw hr (by simp [idle])
      obtain ⟨w', comes, looks⟩ := Crew.quits (w := w) (l := .sendings)
        (by simp [hw, idle]) (by simpa [hw] using forced)
        Lane.noConfusion
      rw [hw] at comes looks
      have aborts : link.outline.aborts .sendings = link.sendings.map (·.failed .aborted) := by
        simp [Outline.aborts, Lane.charge, Job.failed, Function.comp_def]
      refine ⟨w', aborts ▸ comes, looks.trans ?_⟩
      refine Outline.ext ?_ ?_ ?_ rfl rfl <;> funext m <;> cases m <;>
        simp [Outline.givenUp, Lane.charge, handed]
    · split at h
      · rename_i sending rest sendings
        cases h
        obtain ⟨w', comes, looks⟩ := Crew.takes_up (w := w) (l := .sendings)
          (.send sending) (rest.map .send)
          (by simp [hw, idle]) (by simp [hw, sendings])
        refine ⟨w', comes, looks.trans ?_⟩
        rw [hw]
        refine Outline.ext ?_ ?_ ?_ rfl rfl <;> funext m <;> cases m <;> simp [idle]
      · rw [stays] at h
        cases h
  · cases h

theorem finishSending_comes {sending : Sending} (outcome : Outcome Unit)
    (writing : link.writer = .writing sending) (hw : w.outline = link.outline) :
    ∃ w', w.Comes w' (link.finishSending outcome).completions ∧
      w'.outline = (link.finishSending outcome).link.outline := by
  obtain ⟨c, only, yields⟩ : ∃ c, (link.finishSending outcome).completions = [c] ∧
      (Job.send sending).Yields c := by
    rw [finishSending, writing]
    cases outcome with
    | ok sent => exact ⟨_, rfl, .sent sending⟩
    | error e => exact ⟨_, rfl, .unsent sending e⟩
  obtain ⟨w', comes, looks⟩ := Crew.finishes (w := w) (l := .sendings)
    (by simp [hw, writing]) yields
  refine ⟨w', only ▸ comes, looks.trans ?_⟩
  rw [hw, finishSending, writing]
  refine Outline.ext ?_ ?_ ?_ rfl rfl <;> funext m <;> cases m <;> simp [writing, Lane.next]

/-- What the tasks of a link do at once, those of a crew do one by one. -/
theorem Works.comes (h : link.Works s) (hw : w.outline = link.outline) (hr : w.Roster) :
    ∃ w', w.Comes w' s.completions ∧ w'.outline = s.link.outline := by
  cases h with
  | takeRequest h => exact takeRequest_comes h hw hr
  | establish working yields established => exact establish_comes working yields established hw hr
  | failEstablishing error working => exact failEstablishing_comes error working hw hr
  | takeRead h => exact takeRead_comes h hw hr
  | finishRead outcome reading => exact finishRead_comes outcome reading hw
  | takeSending h => exact takeSending_comes h hw hr
  | finishSending outcome writing => exact finishSending_comes outcome writing hw

theorem asked_looks (job : Job) {link' : Link}
    (step : s = if link.cancelled || !link.takes job.lane then ⟨link, [job.failed .aborted]⟩
      else ⟨link', []⟩)
    (queued : link'.outline = { link.outline with
      jobs := Function.update link.jobs job.lane (link.jobs job.lane ++ [job]) }) :
    s.link.outline = link.outline.ask job ∧ s.completions = link.outline.refuses job := by
  have shut : (link.outline.cancelled || !link.outline.takes job.lane) =
    (link.cancelled || !link.takes job.lane) := rfl
  subst step
  rw [Outline.ask, Outline.refuses, shut]
  split
  · exact ⟨rfl, rfl⟩
  · exact ⟨queued, rfl⟩

theorem issue_looks {op : Operation} {job : Job} (h : op.job? = some job) (link : Link) :
    (link.issue op).link.outline = link.outline.ask job ∧
      (link.issue op).completions = link.outline.refuses job := by
  cases op with
  | accept policy | handshake request =>
    cases h
    refine asked_looks _ rfl (Outline.ext ?_ rfl rfl rfl rfl)
    funext m
    cases m <;> simp [Job.lane]
  | read =>
    cases h
    refine asked_looks _ rfl (Outline.ext ?_ rfl rfl rfl rfl)
    funext m
    cases m <;> simp [Job.lane, List.replicate_succ']
  | write kind data | ping payload | pong payload | close reason =>
    cases h
    refine asked_looks _ rfl (Outline.ext ?_ rfl rfl rfl rfl)
    funext m
    cases m <;> simp [Job.lane]
  | forceClose => cases h

/-- Whatever the link comes to, its tasks may come to. -/
theorem Runs.crew {ops : List Operation} {cs : List Completion} (h : Runs ops link cs) :
    ∃ w : Crew, w.Reached ∧ w.asked = ops.filterMap (·.job?) ∧ w.answers.map (·.2) = cs ∧
      w.outline = link.outline := by
  induction h with
  | fresh =>
    refine ⟨{}, .refl, rfl, rfl, Outline.ext ?_ ?_ ?_ rfl rfl⟩ <;> funext m <;> cases m <;> rfl
  | @issue ops link cs h op ih =>
    obtain ⟨w, reached, asked, answers, looks⟩ := ih
    refine ⟨w.issue op, reached.tail (.issue w op), ?_⟩
    rw [List.filterMap_append, ← asked, ← answers]
    cases hj : op.job? with
    | some job =>
      obtain ⟨looks', refused⟩ := issue_looks hj link
      rw [Crew.issue, hj, looks', refused, ← looks, Crew.asked_ask]
      exact ⟨by simp [hj], Crew.ask_answers job w, Crew.ask_outline job w⟩
    | none =>
      cases op with
      | forceClose =>
        refine ⟨(List.append_nil _).symm, (List.append_nil _).symm, ?_⟩
        exact congrArg ({ · with cancelled := true }) looks
      | _ => cases hj
  | @work ops link cs s h step ih =>
    obtain ⟨w, reached, asked, answers, looks⟩ := ih
    obtain ⟨w', comes, looks'⟩ := step.comes looks reached.roster
    refine ⟨w', reached.trans comes.moves, comes.asked.trans asked, ?_, looks'⟩
    rw [comes.answers, answers]

end Link

namespace Crew

/-- All that was asked for, numbered in its order. -/
def errands (asked : List Job) : List Errand := asked.mapIdx fun n job => ⟨job, n⟩

theorem errands_count (asked : List Job) (e : Errand) :
    (errands asked).count e = timesAsked asked e := by
  induction asked using List.reverseRecOn with
  | nil => simp [errands, timesAsked]
  | append_singleton asked job ih =>
    rw [timesAsked_snoc, ← ih, errands, List.mapIdx_concat, List.count_append]
    rfl

theorem errands_kinds (asked : List Job) :
    (errands asked).map (·.job.kind) = asked.map (·.kind) := by
  induction asked using List.reverseRecOn with
  | nil => rfl
  | append_singleton asked job ih =>
    rw [errands, List.mapIdx_concat, List.map_append, List.map_append, ← ih]
    rfl

variable {w : Crew}

theorem Accounted.subperm (h : w.Accounted) :
    (w.answers.map (·.1)).Subperm (errands w.asked) := by
  refine List.subperm_iff_count.mpr fun e => ?_
  have account := h.account e
  rw [errands_count]
  omega

theorem Accounted.perm (h : w.Accounted) (nothing : ∀ l, w.pending l = []) :
    (w.answers.map (·.1)).Perm (errands w.asked) := by
  refine List.perm_iff_count.mpr fun e => ?_
  rw [errands_count, ← h.account e, nothing, List.count_nil, Nat.zero_add]

theorem Accounted.answered_kinds (h : w.Accounted) :
    (w.answers.map (·.2)).filterMap (·.kind?) = (w.answers.map (·.1)).map (·.job.kind) := by
  rw [List.filterMap_map, List.map_map, ← List.filterMap_eq_map]
  exact List.filterMap_congr h.kinds

end Crew

namespace Link

/-- No task has anything left to do. -/
def Rests (link : Link) : Prop := ∀ s, ¬link.Works s

/-- The WebSocket could not be established. -/
def missed : Completion → Bool
  | .accepted (.error _) | .handshaked (.error _) => true
  | _ => false

variable {link : Link} {ops : List Operation} {cs : List Completion} {w : Crew}

/-- No task of a link at rest is at anything. -/
theorem Rests.duty (h : link.Rests) (l : Lane) :
    link.duty l = .absent ∨ link.duty l = .idle ∨ link.duty l = .gone := by
  cases l with
  | requests =>
    cases hl : link.opener with
    | waiting => exact .inr (.inl (by rw [Link.duty, hl]))
    | working r => exact absurd (.failEstablishing .aborted hl) (h _)
    | _ => exact .inr (.inr (by rw [Link.duty, hl]))
  | reads =>
    cases hl : link.reader with
    | absent => exact .inl (by rw [Link.duty, hl])
    | idle => exact .inr (.inl (by rw [Link.duty, hl]))
    | reading => exact absurd (.finishRead (.error .aborted) hl) (h _)
    | _ => exact .inr (.inr (by rw [Link.duty, hl]))
  | sendings =>
    cases hl : link.writer with
    | absent => exact .inl (by rw [Link.duty, hl])
    | idle => exact .inr (.inl (by rw [Link.duty, hl]))
    | writing s => exact absurd (.finishSending (.error .aborted) hl) (h _)
    | _ => exact .inr (.inr (by rw [Link.duty, hl]))

/-- A task that waits does not stay when the link is forced closed. -/
theorem Rests.unforced (h : link.Rests) (forced : link.cancelled = true) (l : Lane) :
    link.duty l ≠ .idle := by
  intro idle
  cases l with
  | requests =>
    cases hl : link.opener with
    | waiting =>
      cases hr : link.requests with
      | nil => exact h link.abandon (.takeRequest (by simp [takeRequest, hl, hr, forced]))
      | cons r rest => exact h _ (.takeRequest (by rw [takeRequest, hl, hr]))
    | _ => simp [Link.duty, hl] at idle
  | reads =>
    cases hl : link.reader with
    | idle => exact h _ (.takeRead (by rw [takeRead, hl, if_pos forced]))
    | _ => simp [Link.duty, hl] at idle
  | sendings =>
    cases hl : link.writer with
    | idle => exact h _ (.takeSending (by rw [takeSending, hl, if_pos forced]))
    | _ => simp [Link.duty, hl] at idle

theorem missed_fails {job : Job} {c : Completion} (kind : c.kind? = some job.kind)
    (h : missed c = true) : job.lane = .requests ∧ c.upgrades = false := by
  have upgrade : job.kind = .accept ∨ job.kind = .handshake := by
    cases c <;> simp_all [missed, Completion.kind?]
  constructor
  · cases job with
    | establish r => rfl
    | read => simp [Job.kind] at upgrade
    | send s => cases s <;> simp [Job.kind] at upgrade
  · unfold missed at h
    split at h <;> first | rfl | cases h

/-- Where the link that runs rests, so do its tasks, if they are to give up. -/
theorem Rests.crew (h : link.Rests) (hs : w.Sound) (hw : w.outline = link.outline)
    (hc : w.cancelled = true ∨ w.Failed) : w.Rests := by
  refine Crew.rests_of_gone fun l => ?_
  have shown : (w.duty l).unnumbered = link.duty l := congrFun (congrArg Outline.duty hw) l
  have forced : w.cancelled = link.cancelled := congrArg Outline.cancelled hw
  rcases h.duty l with absent | idle | gone
  · exact .inl (Duty.eq_of_unnumbered (shown.trans absent) rfl)
  · exfalso
    have waits : w.duty l = .idle := Duty.eq_of_unnumbered (shown.trans idle) rfl
    rcases hc.elim .inl hs.failed with cancelled | given_up
    · exact h.unforced (forced ▸ cancelled) l idle
    · exact given_up.not_idle l waits
  · exact .inr (Duty.eq_of_unnumbered (shown.trans gone) rfl)

/-- A link completes nothing that was not asked for; and once it was forced closed or the WebSocket
could not be established, and no task has anything left to do, it has completed all that was. -/
theorem Runs.completes (h : Runs ops link cs)
    (once : ops.countP (fun op => op.kind? = some .accept ∨ op.kind? = some .handshake) ≤ 1) :
    (cs.filterMap (·.kind?)).Subperm (ops.filterMap (·.kind?)) ∧
      (link.Rests → link.cancelled = true ∨ (∃ c ∈ cs, missed c) →
        (cs.filterMap (·.kind?)).Perm (ops.filterMap (·.kind?))) := by
  obtain ⟨w, reached, asked, rfl, looks⟩ := h.crew
  have requested : w.requested ≤ 1 := by
    rw [Crew.requested, asked, List.countP_filterMap]
    refine Nat.le_trans (List.countP_mono_left fun op _ upgrade => ?_) once
    cases op <;> simp_all [Operation.job?, Operation.kind?, Job.lane]
  have sound := reached.sound requested
  have kinds : ops.filterMap (·.kind?) = (Crew.errands w.asked).map (·.job.kind) := by
    rw [Crew.errands_kinds, asked, List.map_filterMap]
    exact List.filterMap_congr fun op _ => op.job_kind.symm
  rw [sound.accounted.answered_kinds, kinds]
  constructor
  · obtain ⟨found, same, among⟩ := sound.accounted.subperm
    exact ⟨_, same.map _, among.map _⟩
  · intro rests given_up
    have left : w.cancelled = true ∨ w.Failed := by
      refine given_up.imp ((congrArg Outline.cancelled looks).trans ·) ?_
      rintro ⟨c, hc, unestablished⟩
      obtain ⟨a, ha, rfl⟩ := List.mem_map.mp hc
      exact ⟨a, ha, missed_fails (sound.accounted.kinds a ha) unestablished⟩
    exact (sound.accounted.perm (sound.settled (rests.crew sound looks left) left)).map _

end Link

end Parley

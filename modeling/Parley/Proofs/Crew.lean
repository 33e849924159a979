import Mathlib.Logic.Function.Basic
import Mathlib.Logic.Relation
import Parley.Link.Basic
import Parley.Proofs.Ledger
import Parley.Proofs.Passage

namespace Parley

/-- What the tasks of a link are asked to do. -/
inductive Job
  | establish (request : Establishing)
  | read
  | send (sending : Sending)
  deriving DecidableEq

/-- A queue to a task, named for what waits in it. -/
inductive Lane
  | requests
  | reads
  | sendings
  deriving DecidableEq

namespace Job

def lane : Job → Lane
  | establish _ => .requests
  | read => .reads
  | send _ => .sendings

def kind : Job → OperationKind
  | establish (.accept _) => .accept
  | establish (.handshake _) => .handshake
  | read => .read
  | send (.data ..) => .write
  | send (.ping _) => .ping
  | send (.pong _) => .pong
  | send (.close _) => .close

def failed (error : TransportError) : Job → Completion
  | establish request => request.failed error
  | read => .read (.error error)
  | send sending => sending.failed error

/-- What may come of a job, depending on what is found on the stream. -/
inductive Yields : Job → Completion → Prop
  | accepted (policy : AcceptPolicy) (outcome : Outcome Unit) :
    Yields (.establish (.accept policy)) (.accepted outcome)
  | handshaked (request : UpgradeRequest) (outcome : Outcome UpgradeResponse) :
    Yields (.establish (.handshake request)) (.handshaked outcome)
  | read (outcome : Outcome Frame) : Yields .read (.read outcome)
  | sent (sending : Sending) : Yields (.send sending) sending.done
  | unsent (sending : Sending) (error : TransportError) :
    Yields (.send sending) (sending.failed error)

theorem Yields.kind {job : Job} {c : Completion} (h : job.Yields c) : c.kind? = some job.kind := by
  cases h with
  | sent sending | unsent sending => cases sending <;> rfl
  | _ => rfl

theorem failed_yields (error : TransportError) (job : Job) : job.Yields (job.failed error) := by
  cases job with
  | establish request =>
    cases request with
    | accept policy => exact .accepted policy (.error error)
    | handshake request => exact .handshaked request (.error error)
  | read => exact .read (.error error)
  | send sending => exact .unsent sending error

theorem failed_kind (error : TransportError) (job : Job) :
    (job.failed error).kind? = some job.kind :=
  (job.failed_yields error).kind

end Job

/-- What an operation asks the tasks for; a forced close is not for them to carry out. -/
def Operation.job? : Operation → Option Job
  | .accept policy => some (.establish (.accept policy))
  | .handshake request => some (.establish (.handshake request))
  | .read => some .read
  | .write kind data => some (.send (.data kind data))
  | .ping payload => some (.send (.ping payload))
  | .pong payload => some (.send (.pong payload))
  | .close reason => some (.send (.close reason))
  | .forceClose => none

theorem Operation.job_kind (op : Operation) : op.job?.map (·.kind) = op.kind? := by
  cases op <;> rfl

/-- A job, and how many were asked for before it. -/
structure Errand where
  job : Job
  number : Nat
  deriving DecidableEq

structure Queue where
  /-- The oldest first. -/
  waiting : List Errand := []
  isOpen : Bool := true

/-- What a task is at. -/
inductive Duty
  /-- It is not started yet, if ever. -/
  | absent
  /-- It waits for an errand. -/
  | idle
  | busy (errand : Errand)
  /-- The WebSocket is established and the other two are to be started. -/
  | starting
  /-- It gives up and has these queues still to close. -/
  | closing (lanes : List Lane)
  /-- All its queues are closed, and it has these still to empty. -/
  | draining (lanes : List Lane)
  | gone

/-- The queues that are left to the task of this one when it gives up. The task that establishes the
WebSocket leaves nothing to the other two, which are not started then. -/
def Lane.charge : Lane → List Lane
  | .requests => [.requests, .reads, .sendings]
  | l => [l]

/-- What a task turns to once it has given this completion. -/
def Lane.next (l : Lane) (c : Completion) : Duty :=
  match l with
  | .requests => if c.upgrades then .starting else .closing l.charge
  | _ => .idle

/-- A link as its tasks see it, with all that was asked of it and all that it answered. -/
structure Crew where
  queue : Lane → Queue := fun _ => {}
  duty : Lane → Duty := fun l => if l = .requests then .idle else .absent
  /-- The link was forced closed. -/
  cancelled : Bool := false
  asked : List Job := []
  answers : List (Errand × Completion) := []

namespace Crew

def setQueue (l : Lane) (q : Queue) (w : Crew) : Crew :=
  { w with queue := Function.update w.queue l q }

def setDuty (l : Lane) (d : Duty) (w : Crew) : Crew :=
  { w with duty := Function.update w.duty l d }

def answer (e : Errand) (c : Completion) (w : Crew) : Crew :=
  { w with answers := w.answers ++ [(e, c)] }

/-- The session asks for something. It is refused at once where nobody would take it up. -/
def ask (job : Job) (w : Crew) : Crew :=
  let e : Errand := ⟨job, w.asked.length⟩
  let q := w.queue job.lane
  let noted := { w with asked := w.asked ++ [job] }
  if w.cancelled || !q.isOpen then noted.answer e (job.failed .aborted)
  else noted.setQueue job.lane { q with waiting := q.waiting ++ [e] }

def issue (op : Operation) (w : Crew) : Crew :=
  match op.job? with
  | some job => w.ask job
  | none => { w with cancelled := true }

/-- One task does one thing. What a job comes to is left open. -/
inductive Works : Crew → Crew → Prop
  | take (w : Crew) (l : Lane) (e : Errand) (rest : List Errand) (idle : w.duty l = .idle)
      (next : (w.queue l).waiting = e :: rest) :
    Works w ((w.setQueue l { w.queue l with waiting := rest }).setDuty l (.busy e))
  /-- A task that waits hears that the link was forced closed. One that is to establish the
  WebSocket looks for a request first. -/
  | quit (w : Crew) (l : Lane) (idle : w.duty l = .idle) (forced : w.cancelled = true)
      (unasked : l = .requests → (w.queue l).waiting = []) :
    Works w (w.setDuty l (.closing l.charge))
  | finish (w : Crew) (l : Lane) (e : Errand) (c : Completion) (busy : w.duty l = .busy e)
      (yields : e.job.Yields c) :
    Works w ((w.answer e c).setDuty l (l.next c))
  | start (w : Crew) (l : Lane) (starting : w.duty .requests = .starting)
      (absent : w.duty l = .absent) : Works w (w.setDuty l .idle)
  /-- Once the others are there, requests are taken no more. What waits of them is lost. -/
  | withdraw (w : Crew) (starting : w.duty .requests = .starting)
      (present : ∀ l, w.duty l ≠ .absent) :
    Works w ((w.setQueue .requests { isOpen := false }).setDuty .requests .gone)
  | close (w : Crew) (l l' : Lane) (lanes : List Lane)
      (closing : w.duty l = .closing (l' :: lanes)) :
    Works w ((w.setQueue l' { w.queue l' with isOpen := false }).setDuty l (.closing lanes))
  | closed (w : Crew) (l : Lane) (closing : w.duty l = .closing []) :
    Works w (w.setDuty l (.draining l.charge))
  /-- What is taken out of a closed queue is seen by nobody else before it is aborted. -/
  | drain (w : Crew) (l l' : Lane) (lanes : List Lane) (e : Errand) (rest : List Errand)
      (draining : w.duty l = .draining (l' :: lanes)) (next : (w.queue l').waiting = e :: rest) :
    Works w ((w.setQueue l' { w.queue l' with waiting := rest }).answer e (e.job.failed .aborted))
  | drained (w : Crew) (l l' : Lane) (lanes : List Lane)
      (draining : w.duty l = .draining (l' :: lanes)) (empty : (w.queue l').waiting = []) :
    Works w (w.setDuty l (.draining lanes))
  | leave (w : Crew) (l : Lane) (draining : w.duty l = .draining []) :
    Works w (w.setDuty l .gone)

/-- The session asks for something, or a task goes on. -/
inductive Moves : Crew → Crew → Prop
  | issue (w : Crew) (op : Operation) : Moves w (w.issue op)
  | work {w w' : Crew} (h : w.Works w') : Moves w w'

/-- What a link may come to. -/
def Reached (w : Crew) : Prop := Relation.ReflTransGen Moves {} w

/-- No task has anything left to do. -/
def Rests (w : Crew) : Prop := ∀ w', ¬w.Works w'

/-- The WebSocket was asked for and could not be established. -/
def Failed (w : Crew) : Prop :=
  ∃ a ∈ w.answers, a.1.job.lane = .requests ∧ a.2.upgrades = false

/-- All that was answered to the errand of this number. -/
def answersTo (n : Nat) (w : Crew) : List Completion :=
  (w.answers.filter (·.1.number = n)).map (·.2)

end Crew

/-- What a task has in hand. -/
def Duty.hand : Duty → List Errand
  | .busy e => [e]
  | _ => []

theorem Lane.next_hand (l : Lane) (c : Completion) : (l.next c).hand = [] := by
  unfold next
  split
  · split <;> rfl
  · rfl

namespace Crew

/-- What a task has still to do in a lane of its own. -/
def pending (w : Crew) (l : Lane) : List Errand := (w.queue l).waiting ++ (w.duty l).hand

/-- How often an errand was asked for. -/
def timesAsked (asked : List Job) (e : Errand) : Nat :=
  if asked[e.number]? = some e.job then 1 else 0

/-- Every errand that was asked for is in one place, and answered in its own kind if it is. -/
structure Accounted (w : Crew) : Prop where
  filed : ∀ l, ∀ e ∈ w.pending l, e.job.lane = l
  account : ∀ e : Errand, (w.pending e.job.lane).count e + (w.answers.map (·.1)).count e =
    timesAsked w.asked e
  kinds : ∀ a ∈ w.answers, a.2.kind? = some a.1.job.kind

variable {w w' : Crew}

theorem accounted_opening : Accounted {} := by
  have nothing (l : Lane) : pending {} l = [] := by cases l <;> rfl
  exact ⟨by simp [nothing], by simp [nothing, timesAsked], by simp⟩

section

variable {l : Lane} {q : Queue} {d : Duty}

/-- What is in a lane moves on within it, or is answered. -/
theorem Accounted.shift (h : w.Accounted) (news : List (Errand × Completion))
    (asked : w'.asked = w.asked)
    (queue : w'.queue = Function.update w.queue l q) (duty : w'.duty = Function.update w.duty l d)
    (answers : w'.answers = w.answers ++ news)
    (kinds : ∀ a ∈ news, a.2.kind? = some a.1.job.kind)
    (moved : (w.pending l).Perm (q.waiting ++ d.hand ++ news.map (·.1))) : w'.Accounted := by
  have here : w'.pending l = q.waiting ++ d.hand := by
    rw [pending, queue, duty, Function.update_self, Function.update_self]
  have elsewhere (l' : Lane) (hl : l' ≠ l) : w'.pending l' = w.pending l' := by
    rw [pending, queue, duty, Function.update_of_ne hl, Function.update_of_ne hl]
    rfl
  rw [← here] at moved
  refine ⟨fun l' e he => ?_, fun e => ?_, fun a ha => ?_⟩
  · by_cases hl : l' = l
    · subst hl
      exact h.filed l' e (moved.mem_iff.mpr (List.mem_append_left _ he))
    · rw [elsewhere l' hl] at he
      exact h.filed l' e he
  · rw [asked, answers, List.map_append, List.count_append, ← h.account e]
    by_cases hl : e.job.lane = l
    · have same := moved.count_eq e
      rw [List.count_append] at same
      rw [hl]
      omega
    · have not_new : (news.map (·.1)).count e = 0 := List.count_eq_zero.mpr fun he =>
        hl (h.filed l e (moved.mem_iff.mpr (List.mem_append_right _ he)))
      rw [elsewhere _ hl]
      omega
  · rw [answers] at ha
    rcases List.mem_append.mp ha with ha | ha
    · exact h.kinds a ha
    · exact kinds a ha

theorem Accounted.setDuty (h : w.Accounted) (hand : d.hand = (w.duty l).hand) :
    (w.setDuty l d).Accounted := by
  refine h.shift [] rfl (Function.update_eq_self l w.queue).symm rfl
    (List.append_nil _).symm (by simp) ?_
  rw [hand, List.map_nil, List.append_nil]
  exact .refl _

theorem Accounted.setQueue (h : w.Accounted) (waiting : q.waiting = (w.queue l).waiting) :
    (w.setQueue l q).Accounted := by
  refine h.shift [] rfl rfl (Function.update_eq_self l w.duty).symm
    (List.append_nil _).symm (by simp) ?_
  rw [waiting, List.map_nil, List.append_nil]
  exact .refl _

end

/-- The errand that is asked for next is a new one. -/
theorem timesAsked_snoc (asked : List Job) (job : Job) (e : Errand) :
    timesAsked (asked ++ [job]) e = timesAsked asked e + [⟨job, asked.length⟩].count e := by
  obtain ⟨job', n⟩ := e
  unfold timesAsked
  rcases Nat.lt_trichotomy n asked.length with old | rfl | beyond
  · have other : (⟨job, asked.length⟩ : Errand) ≠ ⟨job', n⟩ := by
      rintro ⟨⟩
      exact Nat.lt_irrefl _ old
    simp [List.getElem?_append_left old, other]
  · simp [List.count_cons]
  · have other : (⟨job, asked.length⟩ : Errand) ≠ ⟨job', n⟩ := by
      rintro ⟨⟩
      exact Nat.lt_irrefl _ beyond
    have neither : (asked ++ [job])[n]? = none :=
      List.getElem?_eq_none (by rw [List.length_append]; exact beyond)
    have none_before : asked[n]? = none := List.getElem?_eq_none (Nat.le_of_lt beyond)
    simp [neither, none_before, other]

theorem Accounted.refused (h : w.Accounted) {job : Job} (asked : w'.asked = w.asked ++ [job])
    (pending : w'.pending = w.pending)
    (answers : w'.answers = w.answers ++ [(⟨job, w.asked.length⟩, job.failed .aborted)]) :
    w'.Accounted := by
  refine ⟨fun l => ?_, fun e => ?_, fun a ha => ?_⟩
  · rw [pending]
    exact h.filed l
  · rw [asked, pending, answers, timesAsked_snoc, ← h.account e, List.map_append,
      List.count_append, Nat.add_assoc]
    rfl
  · rw [answers] at ha
    rcases List.mem_append.mp ha with ha | ha
    · exact h.kinds a ha
    · obtain rfl := List.mem_singleton.mp ha
      exact job.failed_kind .aborted

theorem Accounted.queued (h : w.Accounted) {job : Job} (asked : w'.asked = w.asked ++ [job])
    (here : (w'.pending job.lane).Perm (w.pending job.lane ++ [⟨job, w.asked.length⟩]))
    (elsewhere : ∀ l, l ≠ job.lane → w'.pending l = w.pending l)
    (answers : w'.answers = w.answers) : w'.Accounted := by
  refine ⟨fun l e he => ?_, fun e => ?_, fun a ha => h.kinds a (answers ▸ ha)⟩
  · by_cases hl : l = job.lane
    · subst hl
      rcases List.mem_append.mp (here.mem_iff.mp he) with he | he
      · exact h.filed _ e he
      · rw [List.mem_singleton.mp he]
    · rw [elsewhere l hl] at he
      exact h.filed l e he
  · rw [asked, answers, timesAsked_snoc, ← h.account e]
    by_cases hl : e.job.lane = job.lane
    · rw [hl, here.count_eq e, List.count_append, Nat.add_right_comm]
    · have other : [(⟨job, w.asked.length⟩ : Errand)].count e = 0 := by
        refine List.count_eq_zero.mpr fun he => hl ?_
        rw [List.mem_singleton.mp he]
      rw [elsewhere _ hl, other, Nat.add_zero]

theorem Accounted.ask (h : w.Accounted) (job : Job) : (w.ask job).Accounted := by
  unfold Crew.ask
  dsimp only
  split
  · exact h.refused rfl rfl rfl
  · refine h.queued rfl ?_ (fun l hl => ?_) rfl
    · simp only [pending, Crew.setQueue, Function.update_self, List.append_assoc]
      exact List.perm_append_comm.append_left _
    · simp only [pending, Crew.setQueue, Function.update_of_ne hl]

/-- A task goes on, and nobody waits at a door that it shuts for good. -/
theorem Works.accounted (h : w.Works w') (hw : w.Accounted)
    (unasked : w.duty .requests = .starting → (w.queue .requests).waiting = []) :
    w'.Accounted := by
  cases h with
  | take l e rest idle next =>
    refine hw.shift [] rfl rfl rfl (List.append_nil _).symm (by simp) ?_
    simp only [pending, next, idle, Duty.hand, List.map_nil, List.append_nil]
    exact (List.perm_append_singleton e rest).symm
  | quit l idle forced unasked' => exact hw.setDuty (by rw [idle]; rfl)
  | finish l e c busy yields =>
    refine hw.shift [(e, c)] rfl (Function.update_eq_self l w.queue).symm rfl rfl ?_ ?_
    · simpa using yields.kind
    · rw [pending, busy, Lane.next_hand, List.append_nil]
      exact .refl _
  | start l starting absent => exact hw.setDuty (congrArg Duty.hand absent).symm
  | withdraw starting present =>
    exact Accounted.setDuty (hw.setQueue (unasked starting).symm) (congrArg Duty.hand starting).symm
  | close l l' lanes closing =>
    exact Accounted.setDuty (hw.setQueue rfl) (congrArg Duty.hand closing).symm
  | closed l closing => exact hw.setDuty (congrArg Duty.hand closing).symm
  | drain l l' lanes e rest draining next =>
    refine hw.shift [(e, e.job.failed .aborted)] rfl rfl
      (Function.update_eq_self l' w.duty).symm rfl ?_ ?_
    · simpa using e.job.failed_kind .aborted
    · rw [pending, next]
      exact (List.perm_append_singleton e (rest ++ _)).symm
  | drained l l' lanes draining empty => exact hw.setDuty (congrArg Duty.hand draining).symm
  | leave l draining => exact hw.setDuty (congrArg Duty.hand draining).symm

end Crew

end Parley

import Parley.Proofs.Accounted
import Parley.Proofs.LifeCycle

namespace Parley

/-- What has been given to a session to write, and while a hook with an output runs, what was pushed
meanwhile. -/
structure Intake where
  accepted : Bytes := []
  pushed : Option Bytes := none

def Action.pushes : Action → Bytes
  | .push data | .apply (.push data) => data
  | _ => []

namespace Intake

/-- A push counts at once, or behind the output of the hook that is running. -/
def push (i : Intake) (data : Bytes) : Intake :=
  match i.pushed with
  | none => { i with accepted := i.accepted ++ data }
  | some pushed => { i with pushed := some (pushed ++ data) }

def take (i : Intake) : Note → Intake
  | .began _ _ a => i.push a.pushes
  | .lent _ => { i with pushed := some [] }
  | .returned lent draft =>
    { accepted := i.accepted ++ draft.output.drop lent.length ++ i.pushed.getD [] }
  | .called .. | .did _ => i

@[simp] theorem push_nil (i : Intake) : i.push [] = i := by
  rcases i with ⟨accepted, _ | pushed⟩ <;> simp [push]

end Intake

def intake (r : List Note) : Intake := r.foldl .take {}

/-- The bytes that an operation puts on the wire. -/
def Operation.data : Operation → Bytes
  | .write _ data => data
  | _ => []

/-- The data of all writes issued, in order. -/
def written (r : List Note) : Bytes := (operations r).flatMap (·.data)

def Completion.succeeds : Completion → Bool
  | .accepted (.error _) | .handshaked (.error _) | .read (.error _) | .written (.error _)
  | .pinged (.error _) | .ponged (.error _) | .closed (.error _) => false
  | _ => true

/-- A hook with an output may be asked. -/
def Completion.consults : Completion → Bool
  | .accepted (.ok _) | .handshaked (.ok _) | .read (.ok _) => true
  | _ => false

/-- A line of a run in which nobody takes anything from a queue or an output, nothing fails or
ends, and completions wait until a hook is done. -/
def Note.isSmooth : Note → Bool
  | .began _ s (.complete c) => c.succeeds && !s.inHook
  | .began _ _ (.queue _) | .began _ _ .clearQueue | .began _ _ .transportLost => false
  | .returned output draft => output.isPrefixOf draft.output
  | .did (.issued (.close _)) | .did (.issued .forceClose) => false
  | _ => true

def Smooth (r : List Note) : Prop := ∀ n ∈ r, n.isSmooth = true

instance (r : List Note) : Decidable (Smooth r) :=
  inferInstanceAs (Decidable (∀ n ∈ r, n.isSmooth = true))

theorem written_append (r m : List Note) : written (r ++ m) = written r ++ written m := by
  simp [written, operations_append]

theorem intake_append (r m : List Note) : intake (r ++ m) = m.foldl .take (intake r) :=
  List.foldl_append

/-- What a session does by itself gives it nothing to write. -/
theorem intake_notes (r : List Note) (x : Session.Step) : intake (r ++ x.notes) = intake r := by
  rw [intake_append, Session.Step.notes]
  induction x.events with
  | nil => rfl
  | cons event events ih => exact ih

namespace Session

/-- A session with something queued writes as soon as it can. -/
def Awake (s : Session) : Prop :=
  s.phase.canSend = true → s.inHook = false → s.output ≠ [] → s.writing = true

/-- A step that queues `data` behind all else, and writes from the front of the queue or not at
all. -/
structure Step.Flows (s : Session) (data : Bytes) (x : Step) : Prop where
  inOrder : written x.notes ++ x.session.output = s.output ++ data
  inHook : x.session.inHook = s.inHook
  waits : s.inHook = true → written x.notes = []
  awake : s.Awake → x.session.Awake

/-- The part of a session that writes. -/
def tray (s : Session) : Bytes × Bool × Bool × Bool :=
  (s.output, s.inHook, s.writing, s.phase.canSend)

theorem Awake.of_tray {s s' : Session} (h : s.Awake) (he : s'.tray = s.tray) : s'.Awake := by
  simp only [tray, Prod.mk.injEq] at he
  obtain ⟨ho, hi, hw, hc⟩ := he
  unfold Awake
  rw [ho, hi, hw, hc]
  exact h

namespace Step.Flows

variable {s s' : Session} {data : Bytes} {x : Step}

theorem of_tray (h : x.Flows s data) (he : s.tray = s'.tray) : x.Flows s' data := by
  have awake : s'.Awake → s.Awake := fun hs => hs.of_tray he
  simp only [tray, Prod.mk.injEq] at he
  obtain ⟨ho, hi, -, -⟩ := he
  exact ⟨ho ▸ h.inOrder, h.inHook.trans hi, fun hs => h.waits (hi.trans hs),
    fun hs => h.awake (awake hs)⟩

/-- What is left behind may differ in all but its tray. -/
theorem leave (h : x.Flows s data) (he : s'.tray = x.session.tray) :
    Step.Flows s data { x with session := s' } := by
  have awake : x.session.Awake → s'.Awake := fun hs => hs.of_tray he
  simp only [tray, Prod.mk.injEq] at he
  obtain ⟨ho, hi, -, -⟩ := he
  exact ⟨ho ▸ h.inOrder, hi.trans h.inHook, h.waits, fun hs => awake (h.awake hs)⟩

theorem quiet (h : x.session.tray = s.tray) (hw : written x.notes = []) : x.Flows s [] := by
  have awake : s.Awake → x.session.Awake := fun hs => hs.of_tray h
  simp only [tray, Prod.mk.injEq] at h
  obtain ⟨ho, hi, -, -⟩ := h
  exact ⟨by rw [hw, ho, List.nil_append, List.append_nil], hi, fun _ => hw, awake⟩

/-- Before the upgrade and after a close nothing is written. -/
theorem still (hc : x.session.phase.canSend = false) (ho : x.session.output = s.output)
    (hi : x.session.inHook = s.inHook) (hw : written x.notes = []) : x.Flows s [] :=
  ⟨by rw [hw, ho, List.nil_append, List.append_nil], hi, fun _ => hw, fun _ h => by simp [hc] at h⟩

end Step.Flows

theorem written_issue (s : Session) (op : Operation) : written (s.issue op).notes = op.data := by
  simp [written, operations, Step.notes, Note.operation?]

theorem accept_flows (now : Nat) (policy : AcceptPolicy) (s : Session) :
    (s.accept now policy).Flows s [] := by
  unfold accept
  split
  · rename_i phase hr hp
    obtain ⟨-, rfl⟩ := Phase.beginEstablish_ok hp
    exact .still (by simp [keepalive_eq, Phase.canSend]) (by simp [keepalive_eq])
      (by simp [keepalive_eq]) (written_issue _ _)
  · exact .quiet rfl rfl

theorem handshake_flows (now : Nat) (target : String) (s : Session) :
    (s.handshake now target).Flows s [] := by
  unfold handshake
  split
  · rename_i hr hp
    obtain ⟨-, rfl⟩ := Phase.beginEstablish_ok hp
    exact .still (by simp [keepalive_eq, Phase.canSend]) (by simp [keepalive_eq])
      (by simp [keepalive_eq]) (written_issue _ _)
  · exact .quiet rfl rfl

theorem read_flows (now : Nat) (s : Session) : (s.read now).Flows s [] := by
  unfold read
  split <;> exact .quiet rfl rfl

theorem ping_flows (now : Nat) (payload : Bytes) (s : Session) :
    (s.ping now payload).Flows s [] := by
  unfold ping
  split <;> exact .quiet rfl rfl

theorem pong_flows (now : Nat) (payload : Bytes) (s : Session) :
    (s.pong now payload).Flows s [] := by
  unfold pong
  split <;> exact .quiet rfl rfl

theorem close_flows (now : Nat) (reason : CloseReason) (s : Session) :
    (s.close now reason).Flows s [] := by
  unfold close
  split
  · rename_i h hp
    obtain rfl := Phase.beginClose_ok hp
    exact .still rfl rfl rfl rfl
  · exact .quiet rfl rfl

/-- Whoever was asleep, a flush wakes it up. -/
theorem flush_awake (nextRead : Bool) (s : Session) : (s.flush nextRead).session.Awake := by
  unfold flush
  split
  · exact fun _ _ _ => rfl
  · rename_i h
    intro (hc : s.phase.canSend = true) (hi : s.inHook = false) (ho : s.output ≠ [])
    cases hw : s.writing with
    | true => exact hw
    | false => exact absurd (by simp [hi, hw, hc, ho]) h

theorem flush_flows (nextRead : Bool) (s : Session) : (s.flush nextRead).Flows s [] := by
  refine ⟨?_, ?_, ?_, fun _ => s.flush_awake nextRead⟩
  all_goals
    unfold flush
    split
  · simp [written_issue, Operation.data]
  · exact (List.append_nil _).symm
  · rfl
  · rfl
  · rename_i h
    intro hi
    simp [hi] at h
  · exact fun _ => rfl

theorem push_flows (data : Bytes) (s : Session) : (s.push data).Flows s data := by
  have flush := flush_flows true { s with output := s.output ++ data }
  exact ⟨flush.inOrder.trans (List.append_nil _), flush.inHook, flush.waits,
    fun _ => flush_awake true _⟩

theorem advance_flows (now : Nat) (nextRead : Bool) (s : Session) :
    (s.advance now nextRead).Flows s [] := by
  unfold advance
  split
  · exact .quiet rfl rfl
  · split
    · exact s.flush_flows nextRead
    · split
      · exact s.read_flows now
      · exact .quiet rfl rfl

theorem advance_awake (now : Nat) (nextRead : Bool) (s : Session) :
    (s.advance now nextRead).session.Awake := by
  unfold advance
  split
  · rename_i hc
    intro (hs : s.phase.canSend = true)
    cases hp : s.phase <;> simp_all [isClosed, Phase.isClosed, Phase.canSend]
  · split
    · exact s.flush_awake nextRead
    · rename_i ho
      have idle : s.Awake := fun _ _ hn => absurd (by simpa using ho) hn
      split
      · exact (s.read_flows now).awake idle
      · exact idle

/-- Nothing is dropped on a smooth run. -/
theorem forceClose_rough {s : Session} (hf : s.forced = false) : ¬ Smooth s.forceClose.notes := by
  intro h
  simp [forceClose, hf, Smooth, Step.notes, Note.isSmooth] at h

theorem fire_flows (now instant : Nat) {s : Session} (hf : s.forced = false)
    (hx : Smooth (s.fire now instant).notes) : (s.fire now instant).Flows s [] := by
  have fires := s.fires now instant
  generalize s.fire now instant = x at fires hx ⊢
  cases fires with
  | rests s' h => exact .quiet (congrArg tray h :) rfl
  | drops s' h => exact absurd hx (forceClose_rough ((congrArg forced h :).trans hf))
  | pings s' s'' h h' =>
    exact .of_tray (.leave (s'.ping_flows now []) (congrArg tray h' :)) (congrArg tray h :)

/-- Going on from a session that differs in what does not matter to its queue. -/
theorem Step.Flows.goOn {s s' : Session} {x : Step} (h : x.Flows s' []) (ho : s'.output = s.output)
    (hi : s'.inHook = s.inHook) (ha : x.session.Awake) : x.Flows s [] :=
  ⟨ho ▸ h.inOrder, h.inHook.trans hi, fun hs => h.waits (hi.trans hs), fun _ => ha⟩

theorem absorb_flows (now : Nat) {c : Completion} {s : Session} (hs : c.succeeds = true)
    (hi : s.inHook = false) (hn : c.kind? ≠ some .close) : (s.absorb now c).Flows s [] := by
  rcases c with (e | _) | (e | response) | (e | frame) | (e | n) | (e | _) | (e | _) | (e | _) |
    ⟨kind, payload⟩
  case accepted.error | handshaked.error | read.error | written.error | pinged.error |
      ponged.error | closed.error =>
    cases hs
  case accepted.ok =>
    unfold absorb
    dsimp only
    split
    · exact (advance_flows now true _).goOn rfl hi.symm (advance_awake now true _)
    · exact .quiet rfl rfl
  case handshaked.ok =>
    unfold absorb
    dsimp only
    split
    · exact (flush_flows true _).goOn (by simp [received, keepalive_eq]) hi.symm
        (flush_awake true _)
    · exact .quiet rfl rfl
  case read.ok | control => exact .quiet rfl rfl
  case written.ok => exact (advance_flows now _ _).goOn rfl rfl (advance_awake now _ _)
  case pinged.ok | ponged.ok => exact (read_flows now _).of_tray rfl
  case closed.ok => exact absurd rfl hn

theorem resume_flows (now : Nat) (c : Completion) (draft : Draft) (s : Session) :
    (s.resume now c draft).Flows s [] := by
  unfold resume
  split
  · exact s.advance_flows now true
  · exact (flush_flows _ _).of_tray rfl
  · refine (advance_flows now _ _).of_tray ?_
    split <;> rfl
  · exact .quiet rfl rfl

/-- Whatever a hook was asked about, what it leaves in the queue goes out after it. -/
theorem resume_awake (now : Nat) {c : Completion} (hc : c.consults = true) (draft : Draft)
    (s : Session) : (s.resume now c draft).session.Awake := by
  unfold resume
  split
  · exact s.advance_awake now true
  · exact flush_awake _ _
  · exact advance_awake now _ _
  · cases c <;> simp_all [Completion.consults]

end Session

theorem Command.effect_flows (now : Nat) (s : Session) (c : Command) :
    (c.effect now s).Flows s (Action.apply c).pushes := by
  cases c with
  | push data => exact s.push_flows data
  | read => exact s.read_flows now
  | ping payload => exact s.ping_flows now payload
  | close reason => exact s.close_flows now reason
  | run => exact .quiet rfl rfl

theorem Action.effect_flows (now : Nat) {s : Session} {a : Action} (hc : ∀ c, a ≠ .complete c)
    (hf : s.forced = false) (hs : (Note.began now s a).isSmooth = true)
    (hx : Smooth (a.effect now s).notes) : (a.effect now s).Flows s a.pushes := by
  cases a with
  | accept policy => exact s.accept_flows now policy
  | handshake target => exact s.handshake_flows now target
  | read => exact s.read_flows now
  | write => exact s.flush_flows true
  | push data => exact s.push_flows data
  | ping payload => exact s.ping_flows now payload
  | pong payload => exact s.pong_flows now payload
  | close reason => exact s.close_flows now reason
  | forceClose => exact absurd hx (Session.forceClose_rough hf)
  | setFrameMode mode => cases mode <;> exact .quiet rfl rfl
  | keepalive => exact .quiet (by simp [Action.effect, Session.tray, Session.keepalive_eq]) rfl
  | fireTimer instant? => exact Session.fire_flows now _ hf hx
  | apply c => exact c.effect_flows now s
  | complete c => exact absurd rfl (hc c)
  | queue | clearQueue | transportLost => cases hs
  | _ => exact .quiet rfl rfl

/-- Where the bytes are that a session was given: written, in its queue, or lent to the one hook
that is running. -/
inductive Carries : Scene → List Note → Prop
  | free {s : Session} {r : List Note} (hi : s.inHook = false) (hp : (intake r).pushed = none)
      (ho : written r ++ s.output = (intake r).accepted) (ha : s.Awake) : Carries ⟨s, []⟩ r
  | lent {s : Session} {r : List Note} (loan : Loan) (hi : s.inHook = true)
      (hp : (intake r).pushed = some s.output)
      (ho : written r ++ loan.output = (intake r).accepted)
      (hc : loan.completion.consults = true) : Carries ⟨s, [loan]⟩ r

theorem Smooth.left {r m : List Note} (h : Smooth (r ++ m)) : Smooth r :=
  fun n hn => h n (List.mem_append_left m hn)

theorem Smooth.right {r m : List Note} (h : Smooth (r ++ m)) : Smooth m :=
  fun n hn => h n (List.mem_append_right r hn)

/-- On a smooth run no session is dropped. -/
theorem Smooth.unforced {s : Session} {r : List Note} (h : Smooth r) (hl : Living s.life r) :
    s.forced = false := by
  obtain ⟨opening, frames, closing, stages, -⟩ := hl.stages
  cases hf : s.forced with
  | false => rfl
  | true =>
    have hm : .forceClose ∈ operations r := by simp [stages.all, Session.life, dropped, hf]
    cases h _ (mem_operations.mp hm)

/-- On a smooth run no session closes. -/
theorem Smooth.unclosed {r : List Note} (h : Smooth r) : issued .close r = 0 := by
  refine issued_eq_zero fun op hm hk => ?_
  have smooth := h _ (mem_operations.mp hm)
  cases op <;> cases hk
  cases smooth

namespace Carries

variable {s : Session} {k : List Loan} {r : List Note}

/-- A step after lines `m` that write nothing and give it what it queues. -/
theorem step {m : List Note} {data : Bytes} {x : Session.Step} (h : Carries ⟨s, k⟩ r)
    (hx : x.Flows s data) (hm : written m = []) (hi : intake (r ++ m) = (intake r).push data) :
    Carries ⟨x.session, k⟩ (r ++ m ++ x.notes) := by
  have hw : written (r ++ m) = written r := by rw [written_append, hm, List.append_nil]
  cases h with
  | free hh hp ho ha =>
    refine .free (hx.inHook.trans hh) ?_ ?_ (hx.awake ha)
    · rw [intake_notes, hi, Intake.push, hp]
    · rw [intake_notes, hi, Intake.push, hp, written_append, hw, List.append_assoc, hx.inOrder,
        ← List.append_assoc, ho]
  | lent loan hh hp ho hc =>
    have waits := hx.waits hh
    have inOrder := hx.inOrder
    rw [waits, List.nil_append] at inOrder
    refine .lent loan (hx.inHook.trans hh) ?_ ?_ hc
    · rw [intake_notes, hi, Intake.push, hp, inOrder]
    · rw [intake_notes, hi, Intake.push, hp, written_append, hw, waits, List.append_nil, ho]

/-- Lines that give nothing and write nothing. -/
theorem idle {s' : Session} {m : List Note} (h : Carries ⟨s, k⟩ r) (ht : s'.tray = s.tray)
    (hi : intake (r ++ m) = intake r) (hw : written m = []) : Carries ⟨s', k⟩ (r ++ m) := by
  have flows : s'.stay.Flows s [] := .quiet ht rfl
  have := h.step flows hw (by rw [hi, Intake.push_nil])
  simpa [Session.Step.notes] using this

end Carries

theorem Session.asks_consults {c : Completion} {s : Session} {hook : Bytes → Hook}
    (h : s.asks c = some hook) : c.consults = true := by
  unfold asks at h
  split at h
  · rfl
  · rfl
  · rfl
  · cases h

theorem Move.carries {now : Nat} {x y : Scene} {r m : List Note} (h : Move now x m y)
    (hx : Carries x r) (hl : Living x.session.life r) (hf : Fair (r ++ m)) (hs : Smooth (r ++ m)) :
    Carries y (r ++ m) := by
  have smooth := hs.right
  cases h with
  | act now a s k hc =>
    have flows := Action.effect_flows now hc (hs.left.unforced hl) (smooth _ List.mem_cons_self)
      fun n hn => smooth n (List.mem_cons_of_mem _ hn)
    rw [List.append_cons]
    exact hx.step flows rfl (intake_append _ _)
  | absorb now c s k =>
    have begun := smooth _ List.mem_cons_self
    simp only [Note.isSmooth, Bool.and_eq_true, Bool.not_eq_true'] at begun
    -- An answer to a close would end the session with its queue, but nothing was closed.
    have unclosed : c.kind? ≠ some .close := by
      intro hk
      have := hf.due .close hk
      rw [outstanding, hs.left.unclosed] at this
      omega
    rw [List.append_cons]
    exact hx.step (Session.absorb_flows now begun.1 begun.2 unclosed) rfl
      (by simp [intake_append, Intake.take, Action.pushes])
  | enter hook s k => exact hx.idle rfl (by rw [intake_append]; rfl) rfl
  | ask now c hook s k ha =>
    have begun := smooth _ List.mem_cons_self
    simp only [Note.isSmooth, Bool.and_eq_true, Bool.not_eq_true'] at begun
    -- There is at most one loan: no completion that asks a hook comes while another runs.
    cases hx with
    | lent loan hi => rw [begun.2] at hi; cases hi
    | free hi hp ho =>
      have begun : written [.began now s (.complete c), .lent s.output] = [] := rfl
      refine .lent ⟨c, s.output⟩ rfl (by rw [intake_append]; rfl) ?_ (Session.asks_consults ha)
      rw [written_append, begun, List.append_nil, ho, intake_append]
      simp [Intake.take, Action.pushes]
  | answer now loan draft s k =>
    cases hx with
    | lent _ hi hp ho hc =>
      have prefixed : loan.output <+: draft.output :=
        List.isPrefixOf_iff_prefix.mp (smooth _ List.mem_cons_self)
      have flows := (s.restore draft.output).resume_flows now loan.completion draft
      have back : intake (r ++ [.returned loan.output draft]) =
          { accepted := written r ++ (draft.output ++ s.output) } := by
        obtain ⟨more, hm⟩ := prefixed
        simp [intake_append, Intake.take, hp, ← ho, ← hm]
      rw [List.append_cons]
      refine .free flows.inHook ?_ ?_ (Session.resume_awake now hc draft _)
      · rw [intake_notes, back]
      · have told : written [.returned loan.output draft] = [] := rfl
        rw [intake_notes, back, written_append, written_append, told, List.append_nil,
          List.append_assoc, flows.inOrder, List.append_nil]
        rfl
  | flush s k =>
    have flushed := hx.step (s.flush_flows true) (m := []) rfl (by simp)
    rwa [List.append_nil] at flushed
  | reach held s k => exact hx.idle rfl (by simp) rfl

theorem Path.carries {x y : Scene} {r : List Note} (h : Path x r y)
    (hl : Living x.session.life []) (hx : Carries x []) (hf : Fair r) (hs : Smooth r) :
    Carries y r := by
  -- That nothing was dropped is known from the life of the session, which goes along.
  have kept := h.keeps (P := fun x r => Fair r → Smooth r → Living x.session.life r ∧ Carries x r)
    (fun x r m y ih hm hf hs => ?_) (fun _ _ => ⟨hl, hx⟩)
  · exact (kept hf hs).2
  · obtain ⟨living, carries⟩ := ih hf.left hs.left
    exact ⟨hm.living living, hm.carries carries living hf hs⟩

/-- Nothing is lost, doubled or put out of order on its way through a session, and nothing that is
queued is left there. -/
theorem Handler.course_conserves {σ : Type} (h : Handler σ) (depth : Nat) {s₀ : Session}
    (h₀ : s₀.Fresh) (shared : σ) (ms : List (Moment σ))
    (hf : Fair (h.course depth s₀ shared ms).record)
    (hs : Smooth (h.course depth s₀ shared ms).record) :
    written (h.course depth s₀ shared ms).record ++ (h.course depth s₀ shared ms).session.output =
        (intake (h.course depth s₀ shared ms).record).accepted ∧
      ∀ since, (h.course depth s₀ shared ms).session.phase = .established since →
        (h.course depth s₀ shared ms).session.output ≠ [] →
        outstanding .write (h.course depth s₀ shared ms).record = 1 := by
  have path := h.course_path depth s₀ shared ms
  have empty : Carries ⟨s₀, []⟩ [] := by
    cases h₀ <;> exact .free rfl rfl rfl fun hc => nomatch hc
  have tallied := path.tallied (.fresh h₀) hf
  have carries := path.carries (.fresh h₀) empty hf hs
  generalize (h.course depth s₀ shared ms).session = s at tallied carries ⊢
  cases carries with
  | free hi hp ho ha =>
    refine ⟨ho, fun since hc hn => ?_⟩
    have hw := tallied.writes
    rw [ha (by rw [hc]; rfl) hi hn, Bool.toNat_true] at hw
    unfold outstanding
    omega

/-- Shouts before it echoes; what it appends still comes first. -/
def Handler.shouting : Handler Unit where
  react hook session shared :=
    (shared, match hook with
      | .message input _ => [.push [33], .append input]
      | _ => hook.standard session)

/-- A push before the upgrade, and two messages while the greeting is still being written. -/
def crowding : List (Moment Unit) :=
  [.push [62], .accept {}, .complete (.accepted (.ok ())), .read,
    .complete (.read (.ok ⟨.text, [104]⟩)), .read, .complete (.read (.ok ⟨.text, [105]⟩))].map .plain

theorem crowding_conserves :
    Session.Fresh (.server 0 {}) ∧
      Fair (Handler.shouting.course 2 (.server 0 {}) () crowding).record ∧
      Smooth (Handler.shouting.course 2 (.server 0 {}) () crowding).record ∧
      written (Handler.shouting.course 2 (.server 0 {}) () crowding).record ++
          (Handler.shouting.course 2 (.server 0 {}) () crowding).session.output =
        (intake (Handler.shouting.course 2 (.server 0 {}) () crowding).record).accepted ∧
      (Handler.shouting.course 2 (.server 0 {}) () crowding).session.output = [104, 33, 105, 33] ∧
      outstanding .write (Handler.shouting.course 2 (.server 0 {}) () crowding).record = 1 := by
  have fair : Fair (Handler.shouting.course 2 (.server 0 {}) () crowding).record := by
    decide +kernel
  have smooth : Smooth (Handler.shouting.course 2 (.server 0 {}) () crowding).record := by
    decide +kernel
  have conserves :=
    Handler.shouting.course_conserves 2 (.server 0 {}) () crowding fair smooth
  exact ⟨.server 0 {}, fair, smooth, conserves.1, by decide +kernel,
    conserves.2 0 (by decide +kernel) (by decide +kernel)⟩

end Parley

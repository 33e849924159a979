import Parley.Proofs.Frames
import Parley.Proofs.Outgoing

namespace Parley

/-- A line of a run that is smooth, except that it may close. -/
def Note.isGraceful : Note → Bool
  | .did (.issued (.close _)) => true
  | n => n.isSmooth

def Graceful (r : List Note) : Prop := ∀ n ∈ r, n.isGraceful = true

instance (r : List Note) : Decidable (Graceful r) :=
  inferInstanceAs (Decidable (∀ n ∈ r, n.isGraceful = true))

theorem Note.isSmooth_of_isGraceful {n : Note} (h : n.isGraceful = true)
    (hc : n.issue? ≠ some .close) : n.isSmooth = true := by
  unfold isGraceful at h
  split at h
  · exact absurd rfl hc
  · exact h

theorem mem_sent {k : OperationKind} (hk : k.isSend = true) {n : Note} {r : List Note}
    (hn : n ∈ r) (hi : n.issue? = some k) : k ∈ sent r :=
  List.mem_filter.mpr ⟨List.mem_filterMap.mpr ⟨n, hn, hi⟩, hk⟩

/-- As long as no close went out, a graceful run is smooth. -/
theorem Graceful.smooth {r : List Note} (h : Graceful r) (hc : .close ∉ sent r) : Smooth r := by
  intro n hn
  refine Note.isSmooth_of_isGraceful (h n hn) fun hi => ?_
  exact hc (mem_sent rfl hn hi)

theorem written_of_unsent {r : List Note} (h : sent r = []) : written r = [] := by
  refine List.flatMap_eq_nil_iff.mpr fun op ho => ?_
  cases op with
  | write kind data =>
    have := mem_sent (k := .write) rfl (mem_operations.mp ho) rfl
    rw [h] at this
    cases this
  | _ => rfl

/-- A close is the last frame that goes out, and the first one of its kind. -/
theorem Living.sent_around_close {l : Life} {before after : List Note} {reason : CloseReason}
    (h : Living l (before ++ .did (.issued (.close reason)) :: after)) :
    .close ∉ sent before ∧ sent after = [] := by
  obtain ⟨opening, frames, closing, stages, -⟩ := h.stages
  have issues : 0 < issued .close (before ++ .did (.issued (.close reason)) :: after) :=
    List.countP_pos_iff.mpr ⟨.did (.issued (.close reason)), by simp, rfl⟩
  obtain ⟨earlier, unclosed, he⟩ := stages.sent_close issues
  have split : sent (before ++ .did (.issued (.close reason)) :: after) =
      sent before ++ .close :: sent after := by
    simp [sent, Note.issue?, Note.operation?, Operation.kind?, OperationKind.isSend]
  rw [split] at he
  rcases List.append_eq_append_iff.mp he with ⟨rest, rfl, hr⟩ | ⟨rest, hb, hr⟩
  · cases rest with
    | nil => exact ⟨by simpa using unclosed, by simpa using hr⟩
    | cons k rest =>
      rw [List.cons_append, List.cons.injEq] at hr
      exact absurd (hr.1 ▸ by simp) unclosed
  · cases rest with
    | nil => exact ⟨by simpa [hb] using unclosed, by simpa using hr.symm⟩
    | cons k rest => simp at hr

/-- What is on loan after a line. -/
def Note.lend (loans : List Bytes) : Note → List Bytes
  | .lent output => output :: loans
  | .returned .. => loans.tail
  | _ => loans

/-- The outputs that hooks were lent and have not given back, the latest first. -/
def onLoan (r : List Note) : List Bytes := r.foldl Note.lend []

theorem lend_notes (x : Session.Step) (loans : List Bytes) :
    x.notes.foldl Note.lend loans = loans := by
  rw [Session.Step.notes, List.foldl_map]
  exact List.foldl_fixed x.events

theorem Move.onLoan {now : Nat} {x y : Scene} {r m : List Note} (h : Move now x m y)
    (hr : onLoan r = x.loans.map (·.output)) : onLoan (r ++ m) = y.loans.map (·.output) := by
  rw [Parley.onLoan, List.foldl_append]
  change m.foldl Note.lend (Parley.onLoan r) = _
  rw [hr]
  cases h with
  | act | absorb => exact lend_notes _ _
  | enter | ask | reach => rfl
  | answer => exact lend_notes _ _
  | flush => exact lend_notes _ _

/-- Nothing is written once a session has asked for a close. So of the bytes that it had accepted by
then those are written that were written by then; the others were queued, or lent to the hook that
asked for it. Outside of hooks there are none of these as long as no write is in flight. -/
theorem Handler.close_keeps_written {σ : Type} (h : Handler σ) (depth : Nat) {s₀ : Session}
    (h₀ : s₀.Fresh) (shared : σ) (ms : List (Moment σ)) {before after : List Note} {now since : Nat}
    {s : Session} {a : Action} {reason : CloseReason}
    (hr : (h.course depth s₀ shared ms).record =
      before ++ .began now s a :: .did (.issued (.close reason)) :: after)
    (hs : s.phase = .established since) (hf : Fair before) (hg : Graceful before) :
    written (h.course depth s₀ shared ms).record = written before ∧
      (∃ left, (intake before).accepted = written before ++ left ∧
        (s.inHook = false → left = s.output) ∧ (s.inHook = true → onLoan before = [left])) ∧
      (s.inHook = true → (intake before).pushed = some s.output) ∧
      (s.inHook = false → s.writing = false → s.output = []) := by
  have path := h.course_path depth s₀ shared ms
  have living := path.living (.fresh h₀)
  rw [hr, List.append_cons] at living
  obtain ⟨unclosed, unsent⟩ := living.sent_around_close
  have none_written : written (.began now s a :: .did (.issued (.close reason)) :: after) = [] := by
    have later := written_of_unsent unsent
    simpa [written, operations, Note.operation?, Operation.data] using later
  have smooth : Smooth before := by
    apply hg.smooth
    intro closed
    apply unclosed
    simpa [sent, Note.issue?, Note.operation?] using closed
  -- The close was asked for by a session that the course shows, so the path comes through it.
  obtain ⟨k, first, -⟩ := path.split hr rfl
  have empty : Carries ⟨s₀, []⟩ [] := by
    cases h₀ <;> exact .free rfl rfl rfl fun can => absurd can Bool.false_ne_true
  have carries := first.carries (.fresh h₀) empty hf smooth
  refine ⟨by rw [hr, written_append, none_written, List.append_nil], ?_⟩
  cases carries with
  | free hi hp ho ha =>
    refine ⟨⟨s.output, ho.symm, fun _ => rfl, fun running => ?_⟩, fun running => ?_,
      fun _ idle => ?_⟩
    · rw [hi] at running
      cases running
    · rw [hi] at running
      cases running
    · by_contra queued
      have writing := ha (by rw [hs]; rfl) hi queued
      rw [idle] at writing
      cases writing
  | lent loan hi hp ho hc =>
    have due : onLoan before = [loan.output] :=
      first.keeps (P := fun x r => onLoan r = x.loans.map (·.output))
        (fun _ _ _ _ ih move => move.onLoan ih) rfl
    refine ⟨⟨loan.output, ho.symm, fun returned => ?_, fun _ => due⟩, fun _ => hp,
      fun returned => ?_⟩ <;>
    · rw [hi] at returned
      cases returned

/-- Says goodbye to the first message and closes. -/
def Handler.curt : Handler Unit where
  react hook session shared :=
    (shared, match hook with
      | .message .. => [.append [98, 121, 101], .close .normal]
      | _ => hook.standard session)

/-- Two pushes, of which the second waits for the first, and a message that ends it all. -/
def leavetaking : List (Moment Unit) :=
  [.accept {}, .complete (.accepted (.ok ())), .push [49], .push [50],
    .complete (.read (.ok ⟨.text, [104, 105]⟩)), .complete (.written (.ok 1)),
    .complete (.closed (.ok ()))].map .plain

def tookLeave : Turn Unit := Handler.curt.course 2 (.server 0 {}) () leavetaking

theorem leavetaking_keeps_written :
    Session.Fresh (.server 0 {}) ∧ ∃ before after now s a, tookLeave.record =
        before ++ .began now s a :: .did (.issued (.close .normal)) :: after ∧
      s.phase = .established 0 ∧ Fair before ∧ Graceful before ∧
      written tookLeave.record = written before ∧
      (intake before).accepted = [49, 50] ∧ s.inHook = true ∧
      (intake before).accepted = written before ++ [50] ∧ onLoan before = [[50]] := by
  obtain ⟨now, s, a, split, established, running⟩ : ∃ now s a, tookLeave.record =
      tookLeave.record.take 16 ++ .began now s a :: .did (.issued (.close .normal)) ::
        tookLeave.record.drop 18 ∧ s.phase = .established 0 ∧ s.inHook = true :=
    ⟨_, _, _, rfl, rfl, rfl⟩
  have fair : Fair (tookLeave.record.take 16) := by decide +kernel
  have graceful : Graceful (tookLeave.record.take 16) := by decide +kernel
  have kept := Handler.curt.close_keeps_written 2 (.server 0 {}) () leavetaking split established
    fair graceful
  obtain ⟨written, ⟨left, accepted, -, loan⟩, -⟩ := kept
  have lent : onLoan (tookLeave.record.take 16) = [[50]] := by decide +kernel
  obtain rfl : left = [50] := List.singleton_injective ((loan running).symm.trans lent)
  exact ⟨.server 0 {}, _, _, now, s, a, split, established, fair, graceful, written,
    by decide +kernel, running, accepted, lent⟩

/-- A graceful close loses what was pushed before it and what the hook appended that asked for it:
the session is closed, nothing is outstanding, and only the first push was ever written. -/
theorem leavetaking_loses :
    Fair tookLeave.record ∧ Graceful tookLeave.record ∧ tookLeave.session.phase = .closed ∧
      inAll (outstanding · tookLeave.record) = 0 ∧
      (intake tookLeave.record).accepted = [49, 50, 98, 121, 101] ∧
      written tookLeave.record = [49] := by
  refine ⟨?_, ?_, ?_, ?_, ?_, ?_⟩ <;> decide +kernel

end Parley

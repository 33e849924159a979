import Mathlib.Data.List.Infix
import Parley.Proofs.Accounted
import Parley.Proofs.LifeCycle

namespace Parley

def OperationKind.isSend : OperationKind → Bool
  | .write | .ping | .pong | .close => true
  | .accept | .handshake | .read => false

/-- What the session had sent, the oldest first. -/
def sent (r : List Note) : List OperationKind := (r.filterMap (·.issue?)).filter (·.isSend)

/-- What was reported of it, the oldest first. -/
def confirmed (r : List Note) : List OperationKind := (r.filterMap (·.answer?)).filter (·.isSend)

/-- Frames are confirmed in the order in which they were sent. -/
def InOrder (r : List Note) : Prop := ∀ p, p <+: r → confirmed p <+: sent p

instance (r : List Note) : Decidable (InOrder r) :=
  decidable_of_iff (∀ p ∈ r.inits, confirmed p <+: sent p) (by simp [InOrder, List.mem_inits])

theorem issued_eq_count (k : OperationKind) (r : List Note) :
    issued k r = (operations r).countP (·.kind? = some k) := by
  rw [issued, operations, List.countP_filterMap]
  refine List.countP_congr fun n _ => ?_
  cases h : n.operation? <;> simp [Note.issue?, h]

theorem sent_eq (r : List Note) :
    sent r = ((operations r).filterMap (·.kind?)).filter (·.isSend) := by
  rw [sent, operations, List.filterMap_filterMap]
  rfl

theorem count_sent {k : OperationKind} (hk : k.isSend = true) (r : List Note) :
    (sent r).count k = issued k r := by
  rw [sent, List.count_filter hk, List.count, List.countP_filterMap, issued]
  refine List.countP_congr fun n _ => ?_
  cases n.issue? <;> simp

theorem count_confirmed {k : OperationKind} (hk : k.isSend = true) (r : List Note) :
    (confirmed r).count k = answered k r := by
  rw [confirmed, List.count_filter hk, List.count, List.countP_filterMap, answered]
  refine List.countP_congr fun n _ => ?_
  cases n.answer? <;> simp

section

variable {l : Life} {r : List Note} {opening frames closing : List Operation}
  (stages : Stages l.role r opening frames closing (dropped l.forced))

include stages

theorem Stages.opens_kind {op : Operation} (hm : op ∈ opening) :
    op.kind? = some .accept ∨ op.kind? = some .handshake := by
  have := stages.opens _ hm
  unfold Operation.opens at this
  split at this
  · exact .inl rfl
  · exact .inr rfl
  · cases this

theorem Stages.frames_kind {op : Operation} (hm : op ∈ frames) :
    op.kind? ≠ some .accept ∧ op.kind? ≠ some .handshake ∧ op.kind? ≠ some .close ∧
      op.kind? ≠ none := by
  have := stages.framed _ hm
  cases op <;> simp_all [Operation.isFrame, Operation.kind?]

theorem Stages.closing_kind {op : Operation} (hm : op ∈ closing) : op.kind? = some .close := by
  obtain ⟨reason, rfl⟩ := stages.closes _ hm
  rfl

theorem Stages.dropping_kind {op : Operation} (hm : op ∈ dropped l.forced) : op.kind? = none := by
  rcases stages.drops with hd | hd <;> simp_all [Operation.kind?]

/-- One upgrade is asked for at most. -/
theorem Stages.one_upgrade : issued .accept r + issued .handshake r ≤ 1 := by
  have later (op : Operation) (hm : op ∈ frames ++ closing ++ dropped l.forced) :
      op.kind? ≠ some .accept ∧ op.kind? ≠ some .handshake := by
    simp only [List.mem_append] at hm
    rcases hm with (hm | hm) | hm
    · exact ⟨(stages.frames_kind hm).1, (stages.frames_kind hm).2.1⟩
    · simp [stages.closing_kind hm]
    · simp [stages.dropping_kind hm]
  have count (k : OperationKind) (hk : k = .accept ∨ k = .handshake) :
      issued k r = opening.countP (·.kind? = some k) := by
    have none_later :
        (frames ++ (closing ++ dropped l.forced)).countP (·.kind? = some k) = 0 := by
      refine List.countP_eq_zero.mpr fun op hm => ?_
      have := later op (by simpa using hm)
      rcases hk with rfl | rfl <;> simp [this]
    rw [issued_eq_count, stages.all, List.append_assoc, List.append_assoc, List.countP_append,
      none_later, Nat.add_zero]
  rw [count .accept (.inl rfl), count .handshake (.inr rfl)]
  match opening, stages.one_opening with
  | [], _ => simp
  | [op], _ => cases op <;> simp [Operation.kind?]

theorem Stages.closes_once (hc : 0 < issued .close r) : ∃ reason, closing = [.close reason] := by
  rw [issued_eq_count, stages.all] at hc
  obtain ⟨op, hm, hk⟩ := List.countP_pos_iff.mp hc
  have hk : op.kind? = some .close := of_decide_eq_true hk
  have closing_mem : op ∈ closing := by
    simp only [List.mem_append] at hm
    rcases hm with ((hm | hm) | hm) | hm
    · rcases stages.opens_kind hm with ho | ho <;> simp [ho] at hk
    · exact absurd hk (stages.frames_kind hm).2.2.1
    · exact hm
    · simp [stages.dropping_kind hm] at hk
  obtain ⟨reason, rfl⟩ := stages.closes op closing_mem
  match closing, stages.one_closing, closing_mem with
  | [_], _, hm => exact ⟨reason, by rw [List.mem_singleton.mp hm]⟩

/-- Nothing is sent after a close frame. -/
theorem Stages.sent_close (hc : 0 < issued .close r) :
    ∃ earlier, .close ∉ earlier ∧ sent r = earlier ++ [.close] := by
  have unclosed (op : Operation) (hm : op ∈ opening ++ frames) : op.kind? ≠ some .close := by
    rcases List.mem_append.mp hm with hm | hm
    · rcases stages.opens_kind hm with hk | hk <;> simp [hk]
    · exact (stages.frames_kind hm).2.2.1
  obtain ⟨reason, rfl⟩ := stages.closes_once hc
  have drops : (dropped l.forced).filterMap (·.kind?) = [] :=
    List.filterMap_eq_nil_iff.mpr fun _ hm => stages.dropping_kind hm
  refine ⟨((opening ++ frames).filterMap (·.kind?)).filter (·.isSend), fun hm => ?_, ?_⟩
  · obtain ⟨op, ho, hk⟩ := List.mem_filterMap.mp (List.mem_of_mem_filter hm)
    exact unclosed op ho hk
  · rw [sent_eq, stages.all, List.filterMap_append, List.filterMap_append, drops]
    simp [Operation.kind?, OperationKind.isSend]

end

namespace Living

variable {l : Life} {r : List Note}

theorem forced_iff (h : Living l r) : l.forced = true ↔ .forceClose ∈ operations r := by
  obtain ⟨opening, frames, closing, stages, -⟩ := h.stages
  refine ⟨fun hf => ?_, fun hm => ?_⟩
  · rw [stages.all, hf]
    simp [dropped]
  · rw [stages.all] at hm
    simp only [List.mem_append] at hm
    rcases hm with ((hm | hm) | hm) | hm
    · rcases stages.opens_kind hm with hk | hk <;> cases hk
    · exact absurd rfl (stages.frames_kind hm).2.2.2
    · cases stages.closing_kind hm
    · cases hf : l.forced with
      | true => rfl
      | false => simp [dropped, hf] at hm

/-- Once the close frame is on its way, the upgrade is over. -/
theorem upgrade_over (h : Living l r) (hf : Fair r) (hc : 0 < issued .close r) :
    outstanding .accept r = 0 ∧ outstanding .handshake r = 0 := by
  obtain ⟨opening, frames, closing, stages, -⟩ := h.stages
  obtain ⟨reason, rfl⟩ := stages.closes_once hc
  have one := stages.one_upgrade
  have replied : 0 < answered .accept r + answered .handshake r := by
    obtain ⟨-, p, n, q, rfl, hn, -⟩ := stages.late (by simp)
    have here {k : OperationKind} (hk : n.answer? = some k) : 0 < answered k (p ++ n :: q) :=
      List.countP_pos_iff.mpr ⟨n, by simp, by simp [hk]⟩
    have answers : n.answer? = some .accept ∨ n.answer? = some .handshake := by
      unfold Note.upgrades at hn
      split at hn
      · rename_i c
        rcases c with (_ | _) | (_ | _) | _ | _ | _ | _ | _ | _ <;>
          simp [Completion.upgrades, Note.answer?, Completion.kind?] at hn ⊢
      · cases hn
    rcases answers with ha | ha
    · exact Nat.add_pos_left (here ha) _
    · exact Nat.add_pos_right _ (here ha)
  have := hf.answered_le .accept
  have := hf.answered_le .handshake
  unfold outstanding
  omega

/-- When the close frame is out, nothing is left but a read: all frames went out before. -/
theorem left_at_close (h : Living l r) {now : Nat} {s : Session} {outcome : Outcome Unit}
    (hf : Fair (r ++ [.began now s (.complete (.closed outcome))]))
    (hi : InOrder (r ++ [.began now s (.complete (.closed outcome))])) :
    inAll (outstanding · r) = outstanding .read r + 1 := by
  have due : 0 < outstanding .close r := hf.due .close rfl
  have hc : 0 < issued .close r := by
    unfold outstanding at due
    omega
  obtain ⟨opening, frames, closing, stages, -⟩ := h.stages
  obtain ⟨earlier, unclosed, he⟩ := stages.sent_close hc
  have before : confirmed r = earlier := by
    have now_confirmed : confirmed r ++ [.close] <+: earlier ++ [.close] := by
      have := hi _ List.prefix_rfl
      simpa [confirmed, sent, Note.answer?, Completion.kind?, Note.issue?, Note.operation?,
        OperationKind.isSend, ← he] using this
    rcases List.prefix_concat_iff.mp now_confirmed with same | early
    · exact List.append_cancel_right same
    · exact absurd (early.subset (by simp)) unclosed
  have out {k : OperationKind} (hk : k.isSend = true) :
      issued k r = answered k r + [OperationKind.close].count k := by
    rw [← count_sent hk, ← count_confirmed hk, he, before, List.count_append]
  have writes : issued .write r = answered .write r := out rfl
  have pings : issued .ping r = answered .ping r := out rfl
  have pongs : issued .pong r = answered .pong r := out rfl
  have closes : issued .close r = answered .close r + 1 := out rfl
  obtain ⟨accepts, handshakes⟩ := h.upgrade_over hf.left hc
  simp only [inAll, accepts, handshakes]
  unfold outstanding
  omega

end Living

/-- What a session is owed by its connection, all kinds together. -/
def owed (r : List Note) : Nat := inAll (outstanding · r)

theorem inAll_idle {n : Note} (hn : n.IsIdle) (m : List Note) :
    inAll (issued · (n :: m)) = inAll (issued · m) ∧
      inAll (answered · (n :: m)) = inAll (answered · m) := by
  simp [issued, answered, hn.1, hn.2]

theorem inAll_answered_notes (x : Session.Step) : inAll (answered · x.notes) = 0 := by
  simp only [answered_notes, inAll_zero]

theorem inAll_answer {n : Note} {m : List Note} (hm : ∀ n ∈ m, n.answer? = none) :
    inAll (answered · (n :: m)) = n.answer?.isSome.toNat := by
  have rest (k : OperationKind) : answered k m = 0 :=
    List.countP_eq_zero.mpr fun n hn => by simp [hm n hn]
  have first (k : OperationKind) :
      answered k (n :: m) = if n.answer? = some k then 1 else 0 := by
    rw [answered, List.countP_cons, show m.countP _ = 0 from rest k]
    simp
  simp only [first]
  cases n.answer? with
  | none => rfl
  | some k => cases k <;> rfl

theorem inAll_completion (now : Nat) (s : Session) (c : Completion) {m : List Note}
    (hm : ∀ n ∈ m, n.answer? = none) :
    inAll (issued · (.began now s (.complete c) :: m)) = inAll (issued · m) ∧
      s.pending - inAll (answered · (.began now s (.complete c) :: m)) =
        (s.received c).pending := by
  have issues : (Note.began now s (.complete c)).issue? = none := rfl
  refine ⟨by simp [issued, issues], ?_⟩
  rw [inAll_answer hm]
  cases c <;> rfl

theorem Note.answer_notes (x : Session.Step) {n : Note} (h : n ∈ x.notes) : n.answer? = none := by
  obtain ⟨event, -, rfl⟩ := List.mem_map.mp h
  rfl

/-- Only the first line of a move answers anything. -/
theorem Move.answers {now : Nat} {x y : Scene} {m : List Note} (h : Move now x m y) :
    ∀ n ∈ m.tail, n.answer? = none := by
  intro n hn
  have shows_none := h.shows.2 n hn
  cases n with
  | began => cases shows_none
  | _ => rfl

/-- How far a move takes the count of what is pending. -/
theorem Move.pending_le {now : Nat} {x y : Scene} {m : List Note} (h : Move now x m y) :
    y.session.pending ≤ x.session.pending - inAll (answered · m) + inAll (issued · m) := by
  cases h with
  | act now a s k hc =>
    obtain ⟨hi, ha⟩ := inAll_idle (Note.began_IsIdle now s hc) (a.effect now s).notes
    rw [hi, ha, inAll_answered_notes]
    by_cases hl : a = .transportLost
    · subst hl
      exact Nat.zero_le _
    · exact (a.effect_balanced now s hc hl).pending.le
  | absorb now c s k =>
    obtain ⟨hi, ha⟩ := inAll_completion now s c fun _ => Note.answer_notes (s.absorb now c)
    rw [hi, ha]
    exact (s.absorb_balanced now c).pending.le
  | ask now c hook s k =>
    obtain ⟨hi, ha⟩ := inAll_completion now s c (m := [.lent s.output]) (by simp [Note.answer?])
    have books := s.asking_books now c
    simp only [Session.books, Prod.mk.injEq] at books
    rw [hi, ha, ← books.2.2]
    exact Nat.le_add_right _ _
  | answer now loan draft s k =>
    obtain ⟨hi, ha⟩ := inAll_idle (n := .returned loan.output draft)
      (by simp [Note.IsIdle, Note.issue?, Note.operation?, Note.answer?])
      ((s.restore draft.output).resume now loan.completion draft).notes
    rw [hi, ha, inAll_answered_notes]
    exact (Session.resume_balanced now loan.completion draft _).pending.le
  | flush s k =>
    rw [inAll_answered_notes]
    exact (s.flush_balanced true).pending.le
  | enter | reach => exact Nat.le_refl _

/-- The session waits for nothing that it is not owed. -/
theorem Move.owes {now : Nat} {x y : Scene} {r m : List Note} (h : Move now x m y)
    (ho : x.session.pending ≤ owed r) (hf : Fair (r ++ m)) : y.session.pending ≤ owed (r ++ m) := by
  have hp := h.pending_le
  have before := hf.left.inAll_outstanding
  have after := hf.inAll_outstanding
  simp only [issued_append, answered_append, inAll_add] at after
  have due : inAll (answered · m) ≤ owed r := by
    cases m with
    | nil => exact Nat.zero_le _
    | cons n m =>
      rw [inAll_answer (m := m) h.answers]
      cases ha : n.answer? with
      | none => exact Nat.zero_le _
      | some k => exact inAll_pos (hf.due k ha)
  unfold owed at ho due ⊢
  omega

end Parley

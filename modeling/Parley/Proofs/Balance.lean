import Parley.Proofs.Ledger

namespace Parley

/-- A step that enters what it issues into the session's account, and writes nothing empty. -/
structure Session.Step.Balanced (s : Session) (x : Session.Step) : Prop where
  reads : (!x.session.readable).toNat = (!s.readable).toNat + issued .read x.notes
  writes : x.session.writing.toNat = s.writing.toNat + issued .write x.notes
  pending : x.session.pending = s.pending + inAll (issued · x.notes)
  full : ∀ kind data, .issued (.write kind data) ∈ x.events → data ≠ []

namespace Session

/-- The part of a session that is its account. -/
def books (s : Session) : Bool × Bool × Nat := (s.readable, s.writing, s.pending)

theorem issued_issue (k : OperationKind) (s : Session) (op : Operation) :
    issued k (s.issue op).notes = if op.kind? = some k then 1 else 0 := by
  by_cases h : op.kind? = some k <;> simp [issued, Step.notes, Note.issue?, Note.operation?, h]

namespace Step.Balanced

theorem of_books {s s' : Session} {x : Step} (h : x.Balanced s') (he : s.books = s'.books) :
    x.Balanced s := by
  simp only [books, Prod.mk.injEq] at he
  obtain ⟨hr, hw, hp⟩ := he
  exact ⟨by rw [hr]; exact h.reads, by rw [hw]; exact h.writes, by rw [hp]; exact h.pending, h.full⟩

/-- What is left behind may differ in all but the books. -/
theorem leave {s s' : Session} {x : Step} (h : x.Balanced s) (he : s'.books = x.session.books) :
    Step.Balanced s { x with session := s' } := by
  simp only [books, Prod.mk.injEq] at he
  obtain ⟨hr, hw, hp⟩ := he
  exact ⟨by rw [hr]; exact h.reads, by rw [hw]; exact h.writes, by rw [hp]; exact h.pending, h.full⟩

/-- The books stay as they are where nothing is issued that wants an answer. -/
theorem quiet {s : Session} {x : Step} (h : x.session.books = s.books)
    (he : ∀ op, .issued op ∈ x.events → op.kind? = none) : x.Balanced s := by
  simp only [books, Prod.mk.injEq] at h
  obtain ⟨hr, hw, hp⟩ := h
  have none_issued (k : OperationKind) : issued k x.notes = 0 := by
    refine issued_eq_zero fun op hm hk => ?_
    rw [he op (Step.mem_notes.mp (mem_operations.mp hm))] at hk
    cases hk
  refine ⟨by simp [hr, none_issued], by simp [hw, none_issued],
    by simp [hp, none_issued, inAll], fun kind data hm => ?_⟩
  cases he _ hm

theorem stay {s s' : Session} (h : s'.books = s.books) : s'.stay.Balanced s :=
  quiet h (by simp)

theorem issue {s s' : Session} {op : Operation} {k : OperationKind} (hk : op.kind? = some k)
    (hr : k ≠ .read) (hw : k ≠ .write)
    (h : s'.books = (s.readable, s.writing, s.pending + 1)) : (s'.issue op).Balanced s := by
  simp only [books, Prod.mk.injEq] at h
  obtain ⟨hr', hw', hp⟩ := h
  refine ⟨?_, ?_, ?_, ?_⟩
  · simp [issued_issue, hr', hk, hr]
  · simp [issued_issue, hw', hk, hw]
  · cases k <;> simp [issued_issue, hp, hk, inAll]
  · intro kind data hm
    simp only [issue_events, List.mem_singleton, Event.issued.injEq] at hm
    subst hm
    cases hk
    exact absurd rfl hw

end Step.Balanced

theorem accept_balanced (now : Nat) (policy : AcceptPolicy) (s : Session) :
    (s.accept now policy).Balanced s := by
  unfold accept
  split
  · exact .issue (k := .accept) rfl (by simp) (by simp) (by simp [books, keepalive_eq])
  · exact .stay rfl

theorem handshake_balanced (now : Nat) (target : String) (s : Session) :
    (s.handshake now target).Balanced s := by
  unfold handshake
  split
  · exact .issue (k := .handshake) rfl (by simp) (by simp) (by simp [books, keepalive_eq])
  · exact .stay rfl

theorem read_balanced (now : Nat) (s : Session) : (s.read now).Balanced s := by
  unfold read
  split
  · rename_i h
    simp only [Bool.and_eq_true] at h
    constructor <;>
      simp [issued_issue, inAll, Operation.kind?, armIdle, h]
  · exact .stay rfl

theorem flush_balanced (nextRead : Bool) (s : Session) : (s.flush nextRead).Balanced s := by
  unfold flush
  split
  · rename_i h
    simp only [Bool.and_eq_true, Bool.not_eq_true', List.isEmpty_eq_false_iff] at h
    constructor <;> simp [issued_issue, inAll, Operation.kind?, h]
  · exact .stay rfl

theorem push_balanced (data : Bytes) (s : Session) : (s.push data).Balanced s :=
  (flush_balanced true _).of_books rfl

theorem ping_balanced (now : Nat) (payload : Bytes) (s : Session) :
    (s.ping now payload).Balanced s := by
  unfold ping
  split
  · exact .issue (k := .ping) rfl (by simp) (by simp) rfl
  · exact .stay rfl

theorem pong_balanced (now : Nat) (payload : Bytes) (s : Session) :
    (s.pong now payload).Balanced s := by
  unfold pong
  split
  · exact .issue (k := .pong) rfl (by simp) (by simp) rfl
  · exact .stay rfl

theorem close_balanced (now : Nat) (reason : CloseReason) (s : Session) :
    (s.close now reason).Balanced s := by
  unfold close
  split
  · exact .issue (k := .close) rfl (by simp) (by simp) rfl
  · exact .stay rfl

theorem forceClose_balanced (s : Session) : s.forceClose.Balanced s := by
  unfold forceClose
  split
  · exact .stay rfl
  · exact .quiet rfl (by simp [Operation.kind?])

theorem fail_balanced (op : String) (error : TransportError) (s : Session) :
    (s.fail op error).Balanced s := by
  unfold fail forceClose
  refine .quiet (by dsimp only; repeat' split <;> try rfl) ?_
  intro op hm
  rcases List.mem_append.mp hm with hm | hm
  · split at hm <;> simp at hm
  · repeat' split at hm
    all_goals simp_all [Operation.kind?]

theorem advance_balanced (now : Nat) (nextRead : Bool) (s : Session) :
    (s.advance now nextRead).Balanced s := by
  unfold advance
  split
  · exact .stay rfl
  · split
    · exact s.flush_balanced nextRead
    · split
      · exact s.read_balanced now
      · exact .stay rfl

theorem fire_balanced (now instant : Nat) (s : Session) : (s.fire now instant).Balanced s := by
  have fires := s.fires now instant
  generalize s.fire now instant = x at fires ⊢
  cases fires with
  | rests s' h => exact .stay (congrArg books h :)
  | drops s' h => exact s'.forceClose_balanced.of_books (congrArg books h :).symm
  | pings s' s'' h h' =>
    exact .of_books (.leave (s'.ping_balanced now []) (congrArg books h' :)) (congrArg books h :).symm

theorem absorb_balanced (now : Nat) (c : Completion) (s : Session) :
    (s.absorb now c).Balanced (s.received c) := by
  rcases c with (e | _) | (e | response) | (e | frame) | (e | n) | (e | _) | (e | _) | (e | _) |
    ⟨kind, payload⟩
  case accepted.error | handshaked.error | read.error | written.error | pinged.error |
      ponged.error | closed.error =>
    exact fail_balanced _ e _
  case accepted.ok =>
    unfold absorb
    dsimp only
    split
    · exact (advance_balanced now true _).of_books rfl
    · exact .stay rfl
  case handshaked.ok =>
    unfold absorb
    dsimp only
    split
    · exact (flush_balanced true _).of_books (by simp [books, keepalive_eq])
    · exact .stay rfl
  case read.ok | control => exact .stay rfl
  case written.ok => exact advance_balanced now _ _
  case pinged.ok | ponged.ok => exact read_balanced now _
  case closed.ok =>
    refine .stay ?_
    split <;> rfl

theorem asking_books (now : Nat) (c : Completion) (s : Session) :
    (s.asking now c).lend.books = (s.received c).books := by
  unfold asking
  split <;> simp [books, lend, keepalive_eq, peerActive]

theorem resume_balanced (now : Nat) (c : Completion) (draft : Draft) (s : Session) :
    (s.resume now c draft).Balanced s := by
  unfold resume
  split
  · exact s.advance_balanced now true
  · exact (flush_balanced _ _).of_books rfl
  · refine (advance_balanced now _ _).of_books ?_
    split <;> rfl
  · exact .stay rfl

end Session

theorem Command.effect_balanced (now : Nat) (s : Session) (c : Command) :
    (c.effect now s).Balanced s := by
  cases c with
  | push data => exact s.push_balanced data
  | read => exact s.read_balanced now
  | ping payload => exact s.ping_balanced now payload
  | close reason => exact s.close_balanced now reason
  | run => exact .stay rfl

/-- Any action that is neither a completion nor the end of them keeps the account. -/
theorem Action.effect_balanced (now : Nat) (s : Session) (a : Action)
    (hc : ∀ c, a ≠ .complete c) (hl : a ≠ .transportLost) : (a.effect now s).Balanced s := by
  cases a with
  | accept policy => exact s.accept_balanced now policy
  | handshake target => exact s.handshake_balanced now target
  | read => exact s.read_balanced now
  | write => exact s.flush_balanced true
  | push data => exact s.push_balanced data
  | ping payload => exact s.ping_balanced now payload
  | pong payload => exact s.pong_balanced now payload
  | close reason => exact s.close_balanced now reason
  | forceClose => exact s.forceClose_balanced
  | setFrameMode mode => cases mode <;> exact .stay rfl
  | keepalive => exact .stay (by simp [Session.books, Session.keepalive_eq])
  | fireTimer instant? => exact s.fire_balanced now _
  | apply c => exact c.effect_balanced now s
  | complete c => exact absurd rfl (hc c)
  | transportLost => exact absurd rfl hl
  | post | warn | deliver | leaveMark | inspect => exact .quiet rfl (by simp [Action.effect])
  | _ => exact .stay rfl

end Parley

import Parley.Echo
import Parley.Proofs.Balance

namespace Parley

/-- The session's own account is what the record says, and no write in it is empty. -/
structure Tallied (s : Session) (r : List Note) : Prop where
  reads : (!s.readable).toNat + answered .read r = issued .read r
  writes : s.writing.toNat + answered .write r = issued .write r
  pending : KeptLine r → s.pending + inAll (answered · r) = inAll (issued · r)
  full : ∀ kind data, .did (.issued (.write kind data)) ∈ r → data ≠ []

/-- A line that tells of no operation and no answer. -/
def Note.IsIdle (n : Note) : Prop := n.issue? = none ∧ n.answer? = none

namespace Tallied

variable {s s' : Session} {r : List Note}

theorem fresh (h : s.Fresh) : Tallied s [] := by
  cases h <;>
    exact ⟨rfl, rfl, fun _ => rfl, by simp⟩

theorem step {x : Session.Step} (h : Tallied s r) (hx : x.Balanced s) :
    Tallied x.session (r ++ x.notes) := by
  refine ⟨?_, ?_, fun hk => ?_, fun kind data hm => ?_⟩
  · have := h.reads
    rw [issued_append, answered_append, answered_notes, hx.reads]
    omega
  · have := h.writes
    rw [issued_append, answered_append, answered_notes, hx.writes]
    omega
  · have := h.pending hk.left
    simp only [issued_append, answered_append, answered_notes, inAll_add, inAll_zero, hx.pending]
    omega
  · rcases List.mem_append.mp hm with hm | hm
    · exact h.full kind data hm
    · exact hx.full kind data (Session.Step.mem_notes.mp hm)

theorem idle {m : List Note} (h : Tallied s r) (hb : s'.books = s.books)
    (hm : ∀ n ∈ m, n.IsIdle) : Tallied s' (r ++ m) := by
  simp only [Session.books, Prod.mk.injEq] at hb
  obtain ⟨hr, hw, hp⟩ := hb
  have hi (k : OperationKind) : issued k m = 0 :=
    List.countP_eq_zero.mpr fun n hn => by simp [(hm n hn).1]
  have ha (k : OperationKind) : answered k m = 0 :=
    List.countP_eq_zero.mpr fun n hn => by simp [(hm n hn).2]
  refine ⟨?_, ?_, fun hk => ?_, fun kind data hn => ?_⟩
  · rw [issued_append, answered_append, hi, ha, hr]
    exact h.reads
  · rw [issued_append, answered_append, hi, ha, hw]
    exact h.writes
  · simp only [issued_append, answered_append, hi, ha, hp, Nat.add_zero]
    exact h.pending hk.left
  · rcases List.mem_append.mp hn with hn | hn
    · exact h.full kind data hn
    · cases (hm _ hn).1

theorem received {now : Nat} {s₀ : Session} {c : Completion} (h : Tallied s r)
    (hf : Fair (r ++ [.began now s₀ (.complete c)])) :
    Tallied (s.received c) (r ++ [.began now s₀ (.complete c)]) := by
  have hi (k : OperationKind) : issued k [.began now s₀ (.complete c)] = 0 := rfl
  have ha (k : OperationKind) :
      answered k [.began now s₀ (.complete c)] = if c.kind? = some k then 1 else 0 := by
    by_cases hk : c.kind? = some k <;> simp [answered, Note.answer?, hk]
  have due (k : OperationKind) (hk : c.kind? = some k) : answered k r < issued k r :=
    hf.due.answered_lt hk
  have hr := h.reads
  have hw := h.writes
  have := s.readable.not.toNat_le
  have := s.writing.toNat_le
  refine ⟨?_, ?_, fun hk => ?_, fun kind data hn => ?_⟩
  · rw [issued_append, answered_append, hi, ha]
    cases c with
    | read =>
      have := due .read rfl
      simp only [Session.received, Completion.kind?, if_true, Bool.not_true, Bool.toNat_false]
      omega
    | _ => simpa [Session.received, Completion.kind?] using hr
  · rw [issued_append, answered_append, hi, ha]
    cases c with
    | written =>
      have := due .write rfl
      simp only [Session.received, Completion.kind?, if_true, Bool.toNat_false]
      omega
    | _ => simpa [Session.received, Completion.kind?] using hw
  · have hp := h.pending hk.left
    simp only [issued_append, answered_append, hi, ha, inAll_add, Nat.add_zero]
    cases hc : c.kind? with
    | none =>
      have hs : (s.received c).pending = s.pending := by
        cases c <;> simp_all [Session.received, Completion.kind?]
      simpa [hs] using hp
    | some k =>
      -- `pending` stops at zero, so one is taken off it only because something is outstanding.
      have := hf.left.inAll_outstanding
      have : 0 < inAll (outstanding · r) := inAll_pos (hf.due k hc)
      have hs : (s.received c).pending = s.pending - 1 := by
        cases c <;> simp_all [Session.received, Completion.kind?]
      have one : (inAll fun k' => if some k = some k' then 1 else 0) = 1 := by cases k <;> rfl
      rw [hs, one]
      omega
  · exact h.full kind data (by simpa using hn)

end Tallied

/-- The end of the completions leaves the flags alone; only `pending` is off from then on. -/
theorem Tallied.lost {s : Session} {r : List Note} (h : Tallied s r) (now : Nat) :
    Tallied s.lose (r ++ [.began now s .transportLost]) := by
  refine ⟨?_, ?_, fun hk => ?_, fun kind data hm => ?_⟩
  · rw [issued_append, answered_append]
    exact h.reads
  · rw [issued_append, answered_append]
    exact h.writes
  · simpa [Note.isLoss] using hk (.began now s .transportLost) (by simp)
  · exact h.full kind data (by simpa using hm)

theorem Note.began_IsIdle (now : Nat) (s : Session) {a : Action} (h : ∀ c, a ≠ .complete c) :
    (Note.began now s a).IsIdle := by
  cases a <;> simp_all [Note.IsIdle, Note.issue?, Note.operation?, Note.answer?]

theorem Move.tallied {now : Nat} {x y : Scene} {r m : List Note} (h : Move now x m y)
    (ht : Tallied x.session r) (hf : Fair (r ++ m)) : Tallied y.session (r ++ m) := by
  cases h with
  | act now a s k hc =>
    by_cases hl : a = .transportLost
    · subst hl
      exact ht.lost now
    · have begun : Tallied s (r ++ [.began now s a]) :=
        ht.idle rfl (by simpa using Note.began_IsIdle now s hc)
      rw [List.append_cons]
      exact begun.step (a.effect_balanced now s hc hl)
  | absorb now c s k =>
    -- The answer is entered first, and what follows from it starts from books that are right.
    rw [List.append_cons] at hf ⊢
    exact (ht.received hf.left).step (s.absorb_balanced now c)
  | enter hook s k =>
    exact ht.idle rfl (by simp [Note.IsIdle, Note.issue?, Note.operation?, Note.answer?])
  | ask now c hook s k =>
    rw [List.append_cons] at hf ⊢
    exact (ht.received hf.left).idle (s.asking_books now c)
      (by simp [Note.IsIdle, Note.issue?, Note.operation?, Note.answer?])
  | answer now loan draft s k =>
    have back : Tallied (s.restore draft.output) (r ++ [.returned loan.output draft]) :=
      ht.idle rfl (by simp [Note.IsIdle, Note.issue?, Note.operation?, Note.answer?])
    rw [List.append_cons]
    exact back.step (Session.resume_balanced now loan.completion draft _)
  | flush s k => exact ht.step (s.flush_balanced true)
  | reach held s k => exact ht.idle rfl (by simp)

theorem Path.tallied {x y : Scene} {r : List Note} (h : Path x r y) (ht : Tallied x.session [])
    (hf : Fair r) : Tallied y.session r := by
  have kept := h.keeps (P := fun x r => Fair r → Tallied x.session r)
    (fun _ _ _ _ ih hm hf => hm.tallied (ih hf.left) hf) (fun _ => ht)
  exact kept hf

/-- What a session shows of its requests is what it has outstanding on its connection. -/
structure Accounted (s : Session) (r : List Note) : Prop where
  one_read : outstanding .read r ≤ 1
  one_write : outstanding .write r ≤ 1
  readable_iff : s.readable = true ↔ outstanding .read r = 0
  writing_iff : s.writing = true ↔ outstanding .write r = 1
  pending_eq : s.pending = inAll (outstanding · r)
  full : ∀ kind data, .did (.issued (.write kind data)) ∈ r → data ≠ []

theorem Tallied.accounted {s : Session} {r : List Note} (h : Tallied s r) (hf : Fair r)
    (hk : KeptLine r) : Accounted s r := by
  have hr := h.reads
  have hw := h.writes
  have hp := h.pending hk
  have := hf.inAll_outstanding
  refine ⟨?_, ?_, ?_, ?_, by omega, h.full⟩ <;> unfold outstanding
  · cases hs : s.readable <;> simp [hs] at hr ⊢ <;> omega
  · cases hs : s.writing <;> simp [hs] at hw ⊢ <;> omega
  · cases hs : s.readable <;> simp [hs] at hr ⊢ <;> omega
  · cases hs : s.writing <;> simp [hs] at hw ⊢ <;> omega

/-- Every session that a course shows is accounted for, in the middle of its hooks too. -/
theorem Handler.course_accounted {σ : Type} (h : Handler σ) (depth : Nat) {s₀ : Session}
    (h₀ : s₀.Fresh) (shared : σ) (ms : List (Moment σ))
    (hf : Fair (h.course depth s₀ shared ms).record)
    (hk : KeptLine (h.course depth s₀ shared ms).record) {s : Session} {r : List Note}
    (hs : (h.course depth s₀ shared ms).Shows s r) : Accounted s r := by
  obtain ⟨k, hp⟩ := hs.path
  have fair := hf.of_prefix hs.prefix
  exact (hp.tallied (.fresh h₀) fair).accounted fair (hk.of_prefix hs.prefix)

/-- An upgrade and an echo, a push while it is being written, and a ping. -/
def echoing : List (Moment Unit) :=
  [.accept {}, .complete (.accepted (.ok ())), .complete (.read (.ok ⟨.text, [104, 105]⟩)),
    .apply (.push [33]), .apply (.ping []), .complete (.control .ping []),
    .complete (.written (.ok 2)), .read].map .plain

theorem echoing_accounted :
    Session.Fresh (.server 0 {}) ∧ Fair (Handler.echo.course 2 (.server 0 {}) () echoing).record ∧
      KeptLine (Handler.echo.course 2 (.server 0 {}) () echoing).record ∧
      Accounted (Handler.echo.course 2 (.server 0 {}) () echoing).session
        (Handler.echo.course 2 (.server 0 {}) () echoing).record ∧
      (Handler.echo.course 2 (.server 0 {}) () echoing).session.pending = 3 := by
  have fair : Fair (Handler.echo.course 2 (.server 0 {}) () echoing).record := by decide +kernel
  have kept : KeptLine (Handler.echo.course 2 (.server 0 {}) () echoing).record := by
    decide +kernel
  exact ⟨.server 0 {}, fair, kept,
    Handler.echo.course_accounted 2 (.server 0 {}) () echoing fair kept .last, by decide +kernel⟩

end Parley

import Mathlib.Data.List.Induction
import Parley.Proofs.Course

namespace Parley

/-- The operations that a completion answers; a forced close is not one. -/
inductive OperationKind
  | accept
  | handshake
  | read
  | write
  | ping
  | pong
  | close
  deriving DecidableEq, Repr

def Operation.kind? : Operation → Option OperationKind
  | .accept _ => some .accept
  | .handshake _ => some .handshake
  | .read => some .read
  | .write .. => some .write
  | .ping _ => some .ping
  | .pong _ => some .pong
  | .close _ => some .close
  | .forceClose => none

/-- What a completion answers; a control frame of the peer answers nothing. -/
def Completion.kind? : Completion → Option OperationKind
  | .accepted _ => some .accept
  | .handshaked _ => some .handshake
  | .read _ => some .read
  | .written _ => some .write
  | .pinged _ => some .ping
  | .ponged _ => some .pong
  | .closed _ => some .close
  | .control .. => none

namespace Note

def issue? (n : Note) : Option OperationKind := n.operation?.bind (·.kind?)

def answer? : Note → Option OperationKind
  | .began _ _ (.complete c) => c.kind?
  | _ => none

def isLoss : Note → Bool
  | .began _ _ .transportLost => true
  | _ => false

end Note

def issued (k : OperationKind) (r : List Note) : Nat := r.countP (·.issue? = some k)

def answered (k : OperationKind) (r : List Note) : Nat := r.countP (·.answer? = some k)

def outstanding (k : OperationKind) (r : List Note) : Nat := issued k r - answered k r

/-- A total over all kinds. -/
def inAll (count : OperationKind → Nat) : Nat :=
  count .accept + count .handshake + count .read + count .write + count .ping + count .pong +
    count .close

/-- A line that comes after `r` answers, if anything, an operation that is outstanding. -/
def Note.IsDueAfter (r : List Note) (n : Note) : Prop := ∀ k ∈ n.answer?, 0 < outstanding k r

/-- Every completion answers an operation that is outstanding. -/
def Fair (r : List Note) : Prop :=
  ∀ p n q, r = p ++ n :: q → n.IsDueAfter p

/-- The stream of completions did not end. -/
def KeptLine (r : List Note) : Prop :=
  ∀ n ∈ r, n.isLoss = false

instance (r : List Note) (n : Note) : Decidable (n.IsDueAfter r) :=
  inferInstanceAs (Decidable (∀ k ∈ n.answer?, 0 < outstanding k r))

instance (r : List Note) : Decidable (KeptLine r) :=
  inferInstanceAs (Decidable (∀ n ∈ r, n.isLoss = false))

/-- What is said of each line and those before it can be checked line by line. -/
theorem forall_split_iff {α : Type} (P : List α → α → Prop) (r : List α) :
    (∀ p n q, r = p ++ n :: q → P p n) ↔ ∀ i, ∀ h : i < r.length, P (r.take i) r[i] := by
  constructor
  · intro hf i h
    exact hf _ _ (r.drop (i + 1)) (by simp)
  · rintro hf p n q rfl
    simpa using hf p.length (by simp)

theorem fair_iff (r : List Note) :
    Fair r ↔ ∀ i, ∀ h : i < r.length, (r[i]).IsDueAfter (r.take i) :=
  forall_split_iff (fun p (n : Note) => n.IsDueAfter p) r

instance (r : List Note) : Decidable (Fair r) :=
  decidable_of_iff _ (fair_iff r).symm

theorem Fair.left {r m : List Note} (h : Fair (r ++ m)) : Fair r := by
  intro p n q he
  exact h p n (q ++ m) (by simp [he])

theorem Fair.of_prefix {r r' : List Note} (h : Fair r') (hp : r <+: r') : Fair r := by
  obtain ⟨m, rfl⟩ := hp
  exact h.left

theorem Fair.due {r m : List Note} {n : Note} (h : Fair (r ++ n :: m)) : n.IsDueAfter r :=
  h r n m rfl

theorem KeptLine.of_prefix {r r' : List Note} (h : KeptLine r') (hp : r <+: r') : KeptLine r :=
  fun n hn => h n (hp.subset hn)

theorem KeptLine.left {r m : List Note} (h : KeptLine (r ++ m)) : KeptLine r :=
  h.of_prefix (List.prefix_append r m)

theorem issued_eq_zero {k : OperationKind} {r : List Note}
    (h : ∀ op ∈ operations r, op.kind? ≠ some k) : issued k r = 0 := by
  refine List.countP_eq_zero.mpr fun n hn hi => ?_
  obtain ⟨op, ho, hk⟩ := Option.bind_eq_some_iff.mp (of_decide_eq_true hi)
  exact h op (List.mem_filterMap.mpr ⟨n, hn, ho⟩) hk

theorem issued_append (k : OperationKind) (r m : List Note) :
    issued k (r ++ m) = issued k r + issued k m :=
  List.countP_append

theorem answered_append (k : OperationKind) (r m : List Note) :
    answered k (r ++ m) = answered k r + answered k m :=
  List.countP_append

@[simp] theorem inAll_zero : inAll (fun _ => 0) = 0 := rfl

theorem inAll_add (f g : OperationKind → Nat) : inAll (fun k => f k + g k) = inAll f + inAll g := by
  simp only [inAll]
  omega

theorem inAll_pos {f : OperationKind → Nat} {k : OperationKind} (h : 0 < f k) : 0 < inAll f := by
  unfold inAll
  cases k <;> omega

/-- What a session does answers nothing. -/
theorem answered_notes (k : OperationKind) (x : Session.Step) : answered k x.notes = 0 := by
  simp [answered, Session.Step.notes, Note.answer?]

theorem Note.IsDueAfter.answered_lt {n : Note} {r : List Note} (h : n.IsDueAfter r)
    {k : OperationKind} (hk : n.answer? = some k) : answered k r < issued k r := by
  have := h k hk
  unfold outstanding at this
  omega

theorem Fair.answered_le {r : List Note} (h : Fair r) (k : OperationKind) :
    answered k r ≤ issued k r := by
  induction r using List.reverseRecOn with
  | nil => exact Nat.zero_le _
  | append_singleton r n ih =>
    have hr := ih h.left
    rw [answered_append, issued_append]
    by_cases ha : n.answer? = some k
    · have := h.due.answered_lt ha
      have : answered k [n] = 1 := by simp [answered, ha]
      omega
    · have : answered k [n] = 0 := by simp [answered, ha]
      omega

theorem Fair.outstanding_add {r : List Note} (h : Fair r) (k : OperationKind) :
    outstanding k r + answered k r = issued k r := by
  have := h.answered_le k
  unfold outstanding
  omega

theorem Fair.inAll_outstanding {r : List Note} (h : Fair r) :
    inAll (outstanding · r) + inAll (answered · r) = inAll (issued · r) := by
  rw [← inAll_add]
  exact congrArg inAll (funext h.outstanding_add)

end Parley

import Parley.Proofs.Passage

namespace Parley

variable {σ : Type}

/-- Hooks with a known first action are followed by it. -/
def Answered (answer : Hook → Option Action) (r : List Note) : Prop :=
  ∀ p hook q a, r = p ++ .did (.entered hook) :: q → answer hook = some a →
    ∃ now s q', q = .began now s a :: q'

variable {answer : Hook → Option Action}

theorem Answered.append {r m : List Note} (h : Answered answer r) (h' : Answered answer m) :
    Answered answer (r ++ m) := by
  intro p hook q a he ha
  rcases List.append_eq_append_iff.mp he with ⟨p', rfl, hm⟩ | ⟨q', hr, hq⟩
  · exact h' p' hook q a hm ha
  · cases q' with
    | nil => exact h' [] hook q a hq.symm ha
    | cons n q' =>
      rw [List.cons_append, List.cons.injEq] at hq
      obtain ⟨rfl, rfl⟩ := hq
      obtain ⟨now, s, q, rfl⟩ := h p hook q' a hr ha
      exact ⟨now, s, q ++ m, rfl⟩

theorem Answered.quiet {m : List Note} (h : ∀ hook, .did (.entered hook) ∉ m) :
    Answered answer m := by
  rintro p hook q a rfl
  exact absurd (List.mem_append_right p List.mem_cons_self) (h hook)

theorem Answered.note {r : List Note} (h : Answered answer r) (n : Note)
    (hn : ∀ hook, n ≠ .did (.entered hook)) : Answered answer (r ++ [n]) :=
  h.append (.quiet fun hook hm => hn hook (List.mem_singleton.mp hm).symm)

theorem Answered.entered_only {hook : Hook} (ha : answer hook = none) :
    Answered answer [.did (.entered hook)] := by
  rintro (_ | ⟨n, p⟩) hook' q a he ha'
  · simp only [List.nil_append, List.cons.injEq, Note.did.injEq, Event.entered.injEq] at he
    rw [← he.1, ha] at ha'
    cases ha'
  · simp at he

theorem Answered.entered_first (hook : Hook) {a : Action} (ha : answer hook = some a) (now : Nat)
    (s : Session) : Answered answer [.did (.entered hook), .began now s a] := by
  rintro (_ | ⟨n, _ | ⟨n', p⟩⟩) hook' q a' he ha'
  · simp only [List.nil_append, List.cons.injEq, Note.did.injEq, Event.entered.injEq] at he
    obtain ⟨rfl, rfl⟩ := he
    obtain rfl : a = a' := by simpa [ha] using ha'
    exact ⟨now, s, [], rfl⟩
  · simp at he
  · simp at he

/-- Hooks and bodies enter no hook without its answer. -/
structure Host.Answers (answer : Hook → Option Action) (host : Host σ) : Prop where
  call (hook : Hook) (t : Turn σ) (h : Answered answer t.record) :
    Answered answer (host.call hook t).record
  run (body : List Action) (t : Turn σ) (h : Answered answer t.record) :
    Answered answer (host.run body t).record

namespace Turn

variable {host : Host σ} {t : Turn σ}

theorem step_answered {f : Session → Session.Step} {s : Session} (hf : (f t.session).Passes s)
    (h : Answered answer t.record) : Answered answer (t.step f).record :=
  h.append (.quiet fun hook hm => hf.quiet hook (by simpa using hm))

theorem call_answered (hh : host.Answers answer) (hook : Hook) (h : Answered answer t.record) :
    Answered answer (t.call host hook).record :=
  hh.call hook { t with draft := {} } h

theorem run_answered (hh : host.Answers answer) (body : List Action)
    (h : Answered answer t.record) : Answered answer (t.run host body).record :=
  hh.run body { t with draft := {} } h

theorem consult_answered (hh : host.Answers answer) (hook : Bytes → Hook)
    (h : Answered answer t.record) : Answered answer (t.consult host hook).1.record := by
  have lent := h.note (.lent t.session.output) nofun
  exact (hh.call (hook t.session.output) _ lent).note (.returned _ _) nofun

theorem accepted_answered (hh : host.Answers answer) (outcome : Outcome Unit)
    (h : Answered answer t.record) : Answered answer (t.accepted host outcome).record := by
  unfold accepted
  split
  · exact step_answered (Session.fail_passes _ _ _) h
  · split
    · exact h
    · dsimp only
      refine step_answered (Session.advance_passes _ _ _) ?_
      split
      · refine consult_answered hh .accept ?_
        exact h
      · exact h

theorem handshaked_answered (hh : host.Answers answer) (outcome : Outcome UpgradeResponse)
    (h : Answered answer t.record) : Answered answer (t.handshaked host outcome).record := by
  unfold handshaked
  split
  · exact step_answered (Session.fail_passes _ _ _) h
  · split
    · exact h
    · dsimp only
      split
      · refine step_answered (Session.flush_passes _ _) ?_
        refine consult_answered hh (.handshake _) ?_
        exact h
      · refine step_answered (Session.flush_passes _ _) ?_
        exact h

theorem readDone_answered (hh : host.Answers answer) (outcome : Outcome Frame)
    (h : Answered answer t.record) : Answered answer (t.readDone host outcome).record := by
  unfold readDone
  split
  · refine step_answered (Session.fail_passes _ _ _) ?_
    exact h
  · dsimp only
    split
    · exact h
    · refine step_answered (Session.advance_passes _ _ _) ?_
      refine consult_answered hh (.message _) ?_
      exact h

theorem complete_answered (hh : host.Answers answer) (c : Completion)
    (h : Answered answer t.record) : Answered answer (t.complete host c).record := by
  have settled : Answered answer (t.settle c).record := by
    cases c <;> exact h
  unfold complete
  generalize t.settle c = t at settled ⊢
  cases c with
  | accepted outcome => exact accepted_answered hh outcome settled
  | handshaked outcome => exact handshaked_answered hh outcome settled
  | read outcome => exact readDone_answered hh outcome settled
  | written outcome =>
    cases outcome with
    | error e =>
      refine step_answered (Session.fail_passes _ _ _) ?_
      exact settled
    | ok n =>
      refine step_answered (Session.advance_passes _ _ _) ?_
      exact settled
  | pinged outcome | ponged outcome =>
    cases outcome with
    | error e => exact step_answered (Session.fail_passes _ _ _) settled
    | ok _ => exact step_answered (Session.read_passes _ _) settled
  | closed outcome =>
    cases outcome with
    | error e => exact step_answered (Session.fail_passes _ _ _) settled
    | ok _ => exact settled
  | control kind payload =>
    unfold controlReceived
    dsimp only
    split
    · exact settled
    · exact step_answered (Session.flush_passes _ _) (call_answered hh _ settled)

theorem fireTimer_answered (hh : host.Answers answer) (instant : Nat)
    (h : Answered answer t.record) : Answered answer (t.fireTimer host instant).record := by
  unfold fireTimer
  dsimp only
  split
  · exact h
  · refine run_answered hh _ ?_
    exact h
  · refine step_answered (Session.forceClose_passes _) ?_
    exact h
  · split
    · refine step_answered (Session.ping_passes _ _ _) ?_
      exact h
    · refine step_answered (Session.forceClose_passes _) ?_
      exact h

theorem applyCommand_answered (hh : host.Answers answer) (c : Command)
    (h : Answered answer t.record) : Answered answer (t.applyCommand host c).record := by
  cases c with
  | push data => exact step_answered (Session.push_passes _ _) h
  | read => exact step_answered (Session.read_passes _ _) h
  | ping payload => exact step_answered (Session.ping_passes _ _ _) h
  | close reason => exact step_answered (Session.close_passes _ _ _) h
  | run body => exact run_answered hh body h

theorem carryOut_answered (hh : host.Answers answer) (a : Action)
    (h : Answered answer t.record) : Answered answer (t.carryOut host a).record := by
  cases a with
  | accept policy => exact step_answered (Session.accept_passes _ _ _) h
  | connected =>
    simp only [carryOut, connected]
    split
    · exact call_answered hh _ h
    · exact h
  | handshake target => exact step_answered (Session.handshake_passes _ _ _) h
  | read => exact step_answered (Session.read_passes _ _) h
  | write => exact step_answered (Session.flush_passes _ _) h
  | push data => exact step_answered (Session.push_passes _ _) h
  | ping payload => exact step_answered (Session.ping_passes _ _ _) h
  | pong payload => exact step_answered (Session.pong_passes _ _ _) h
  | close reason => exact step_answered (Session.close_passes _ _ _) h
  | forceClose => exact step_answered (Session.forceClose_passes _) h
  | fireTimer instant? => exact fireTimer_answered hh _ h
  | apply c => exact applyCommand_answered hh c h
  | complete c => exact complete_answered hh c h
  | finish =>
    simp only [carryOut, finish]
    split
    · exact h
    · refine call_answered hh _ ?_
      exact h
  | post | warn | deliver | leaveMark | inspect => exact h.note _ (by simp)
  | _ => exact h

theorem perform_answered (hh : host.Answers answer) (a : Action) (h : Answered answer t.record) :
    Answered answer (t.perform host a).record :=
  carryOut_answered hh a (h.note (.began t.now t.session a) nofun)

theorem performAll_answered (hh : host.Answers answer) (actions : List Action)
    (h : Answered answer t.record) : Answered answer (t.performAll host actions).record := by
  induction actions generalizing t with
  | nil => exact h
  | cons a actions ih => exact ih (perform_answered hh a h)

end Turn

namespace Handler

variable {h : Handler σ}

/-- The answer of a handler to a hook starts with a known action. -/
def Begins (h : Handler σ) (answer : Hook → Option Action) : Prop :=
  ∀ hook s shared a, answer hook = some a → (h.react hook s shared).2.head? = some a

theorem host_answers (hb : h.Begins answer) (depth : Nat) : (h.host depth).Answers answer := by
  induction depth with
  | zero => exact ⟨fun _ _ ht => ht, fun _ _ ht => ht⟩
  | succ depth ih =>
    refine ⟨fun hook t ht => ?_, fun body t ht => Turn.performAll_answered ih body ht⟩
    have called := ht.note (.called t.session hook) nofun
    have first := hb hook t.session t.shared
    cases ha : answer hook with
    | none =>
      refine Turn.performAll_answered ih _ (called.append ?_)
      exact .entered_only ha
    | some a =>
      obtain ⟨rest, hr⟩ := List.head?_eq_some_iff.mp (first a ha)
      change Answered answer
        (Turn.performAll (h.host depth) (h.react hook t.session t.shared).2 _).record
      rw [hr]
      refine Turn.performAll_answered ih rest (Turn.carryOut_answered ih a ?_)
      have entered := called.append (.entered_first hook ha t.now t.session)
      simpa [Turn.note, Turn.emit] using entered

theorem course_answered (hb : h.Begins answer) (depth : Nat) (s : Session) (shared : σ)
    (ms : List (Moment σ)) : Answered answer (h.course depth s shared ms).record := by
  suffices ∀ t : Turn σ, Answered answer t.record →
      Answered answer (t.follow (h.host depth) ms).record from this _ (.quiet (by simp))
  induction ms with
  | nil => exact fun t ht => ht
  | cons m ms ih =>
    intro t ht
    refine ih _ (Turn.perform_answered (h.host_answers hb depth) m.action ?_)
    exact ht

end Handler

end Parley

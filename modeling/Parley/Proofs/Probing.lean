import Parley.Proofs.Tending

namespace Parley

/-- The watchdog fires, and the first thing that the session does is to issue an operation. -/
def Fired (r before : List Note) (now : Nat) (s : Session) (op : Operation) (since : List Note) :
    Prop :=
  ∃ at?, r = before ++ .began now s (.fireTimer at?) :: .did (.issued op) :: since

/-- The watchdog is fired as of an instant that is still to come. -/
def Note.foresees : Note → Bool
  | .began now _ (.fireTimer (some instant)) => now < instant
  | _ => false

/-- What a session may rely on: time is the clock's, and its deadlines and waits are its own. -/
structure Timely (r : List Note) : Prop where
  clock : ∀ n ∈ r, n.foresees = false
  own : ∀ n ∈ r, n.setsTimer = false

theorem Timely.left {r m : List Note} (h : Timely (r ++ m)) : Timely r :=
  ⟨fun n hn => h.clock n (List.mem_append_left m hn),
    fun n hn => h.own n (List.mem_append_left m hn)⟩

theorem Timely.right {r m : List Note} (h : Timely (r ++ m)) : Timely m :=
  ⟨fun n hn => h.clock n (List.mem_append_right r hn),
    fun n hn => h.own n (List.mem_append_right r hn)⟩

/-- The watchdog is fired as of an instant that is past. -/
theorem Timely.past {r : List Note} (h : Timely r) {now : Nat} {s : Session} {at? : Option Nat}
    (hm : .began now s (.fireTimer at?) ∈ r) : at?.getD now ≤ now := by
  cases at? with
  | none => exact Nat.le_refl now
  | some instant => simpa [Note.foresees] using h.clock _ hm

theorem Fired.issued {r before since : List Note} {now : Nat} {s : Session} {op : Operation}
    (h : Fired r before now s op since) : op ∈ operations r := by
  obtain ⟨at?, rfl⟩ := h
  simp [mem_operations]

theorem Fired.append {r before since : List Note} {now : Nat} {s : Session} {op : Operation}
    (h : Fired r before now s op since) (m : List Note) :
    Fired (r ++ m) before now s op (since ++ m) := by
  obtain ⟨at?, rfl⟩ := h
  exact ⟨at?, by simp⟩

/-- No move begins with what it issues, except for what a hook has queued. -/
theorem Move.issues_late {now : Nat} {x y : Scene} {m : List Note} {op : Operation}
    (h : Move now x (.did (.issued op) :: m) y) : ∃ kind data, op = .write kind data := by
  generalize hn : Note.did (.issued op) :: m = l at h
  cases h with
  | flush s k =>
    unfold Session.write Session.flush at hn
    split at hn <;> simp only [Session.Step.notes, Session.issue_events, Session.stay_events,
      List.map_cons, List.map_nil, List.cons.injEq, Note.did.injEq, Event.issued.injEq,
      reduceCtorEq] at hn
    exact ⟨_, _, hn.1⟩
  | _ => cases hn

/-- A watchdog that fires does so in this move, or did in an earlier one. -/
theorem Move.fired {now t : Nat} {x y : Scene} {r m before since : List Note} {s : Session}
    {op : Operation} (h : Move now x m y) (hf : Fired (r ++ m) before t s op since)
    (hop : ∀ kind data, op ≠ .write kind data) :
    (∃ since', Fired r before t s op since' ∧ since = since' ++ m) ∨
      before = r ∧ ∃ at?, m = .began t s (.fireTimer at?) :: .did (.issued op) :: since := by
  obtain ⟨at?, he⟩ := hf
  rcases h.line he rfl with ⟨rfl, hm, -⟩ | ⟨q, hr, hq⟩
  · exact .inr ⟨rfl, at?, hm⟩
  · cases q with
    | nil =>
      rw [List.nil_append] at hq
      subst hq
      obtain ⟨kind, data, hw⟩ := h.issues_late
      exact absurd hw (hop kind data)
    | cons n q =>
      rw [List.cons_append, List.cons.injEq] at hq
      obtain ⟨rfl, rfl⟩ := hq
      exact .inl ⟨q, ⟨at?, hr⟩, rfl⟩

/-- A track comes to the session on which the watchdog fires, no later than it does. -/
theorem Track.fired {n now t : Nat} {x y : Scene} {r before since : List Note} {s : Session}
    {op : Operation} (h : Track n x r now y) (hf : Fired r before t s op since)
    (hop : ∀ kind data, op ≠ .write kind data) :
    ∃ k now' at?, Track n x before now' ⟨s, k⟩ ∧ now' ≤ t ∧ .began t s (.fireTimer at?) ∈ r ∧
      .issued op ∈ (s.fire t (at?.getD t)).events := by
  induction h generalizing since with
  | refl =>
    obtain ⟨at?, he⟩ := hf
    simp at he
  | @snoc now' now'' y z l m track hn hm ih =>
    rcases hm.fired hf hop with ⟨since', hf', rfl⟩ | ⟨rfl, at?, rfl⟩
    · obtain ⟨k, n', at?, first, le, mem, issued⟩ := ih hf'
      exact ⟨k, n', at?, first, le, List.mem_append_left m mem, issued⟩
    · obtain ⟨rfl, rfl, does⟩ := hm.began
      obtain ⟨notes, -⟩ := does rfl
      refine ⟨y.loans, now', at?, track, hn, by simp, ?_⟩
      exact Session.Step.mem_notes.mp (notes ▸ List.mem_cons_self)

/-- Everything on a track began by the instant that its clock shows in the end. -/
theorem Track.past {n now t : Nat} {x y : Scene} {r : List Note} {s : Session} {a : Action}
    (h : Track n x r now y) (hm : .began t s a ∈ r) : t ≤ now := by
  induction h with
  | refl => simp at hm
  | @snoc _ _ _ _ l m track hn move ih =>
    rcases List.mem_append.mp hm with hm | hm
    · exact Nat.le_trans (ih hm) hn
    · obtain ⟨p, q, rfl⟩ := List.append_of_mem hm
      obtain ⟨rfl, -⟩ := move.first rfl rfl
      exact Nat.le_of_eq move.began.1

theorem Track.fired_le {n now t : Nat} {x y : Scene} {r before since : List Note} {s : Session}
    {op : Operation} (h : Track n x r now y) (hf : Fired r before t s op since) : t ≤ now := by
  obtain ⟨at?, rfl⟩ := hf
  exact h.past (List.mem_append_right before List.mem_cons_self)

namespace Session

/-- A watchdog that fires and issues anything probes the peer, or drops the connection. -/
theorem fire_issues {now instant : Nat} {s : Session} {op : Operation}
    (h : .issued op ∈ (s.fire now instant).events) :
    (op = .ping [] ∧
      (s.fire now instant).session.watchdog =
        some ⟨some (now + s.config.probe), some .forceClose⟩) ∨
      (op = .forceClose ∧ ∃ expiry wait, s.watchdog = some ⟨some expiry, some wait⟩ ∧
        expiry ≤ instant ∧ (s.phase.canSend = true → wait = .forceClose)) := by
  have fires := s.fire_cases now instant
  generalize s.fire now instant = x at fires h ⊢
  cases fires with
  | early | spent => simp at h
  | probes expiry hd due =>
    simp only [issue_events, List.mem_singleton, Event.issued.injEq] at h
    exact .inl ⟨h, rfl⟩
  | drops expiry wait hd due hw =>
    have : op = .forceClose := by
      unfold forceClose at h
      split at h
      · simp at h
      · simpa using h
    exact .inr ⟨this, expiry, wait, hd, due, hw⟩

/-- The deadline of a probe leaves the peer one of the two windows. -/
def Patient (s : Session) (r : List Note) : Prop :=
  ∀ d ∈ s.watchdog, d.isEscalated = true → ∀ before p s' since,
    Fired r before p s' (.ping []) since →
    (∀ before' p' s'' since', ¬Fired since before' p' s'' (.ping []) since') →
    ∀ expiry ∈ d.expiry, p + s.config.probe ≤ expiry ∨
      p + s.config.idle ≤ expiry ∧ ∃ op ∈ operations since, op.rearms = true

end Session

theorem Move.patient {n now now' : Nat} {x y z : Scene} {r m : List Note}
    (track : Track n x r now y) (hn : now ≤ now') (h : Move now' y m z) (ht : Timely m)
    (hp : y.session.Patient r) :
    2 < z.session.phase.rank ∨ z.session.Patient (r ++ m) := by
  obtain ⟨config, tends⟩ := h.tends ht.own
  by_cases live : 2 < z.session.phase.rank
  · exact .inl live
  refine .inr fun d hd escalated before p s' since hf last expiry he => ?_
  rw [config]
  rcases h.fired hf nofun with ⟨since', hf', rfl⟩ | ⟨rfl, at?, rfl⟩
  · -- The peer was probed before this move, which does not probe it again.
    have past := track.fired_le hf'
    have last' : ∀ before' p' s'' since'', ¬Fired since' before' p' s'' (.ping []) since'' :=
      fun _ _ _ _ again => last _ _ _ _ (again.append m)
    rw [operations_append]
    rcases tends with (gone | same | ⟨op, hm, hop, moved⟩ | renewed | relaxed) |
      ⟨⟨_, at?, -, -, hm⟩, -⟩
    · exact absurd gone live
    · rw [same] at hd
      refine (hp d hd escalated before p s' since' hf' last' expiry he).imp_right ?_
      exact fun ⟨le, op, hop, rearms⟩ => ⟨le, op, List.mem_append_left _ hop, rearms⟩
    · rw [moved, Option.mem_def, Option.map_eq_some_iff] at hd
      obtain ⟨d', -, rfl⟩ := hd
      obtain rfl : now' + y.session.config.idle = expiry := by simpa [Watchdog.arm] using he
      exact .inr ⟨by omega, op, List.mem_append_right _ hm, hop⟩
    · exact absurd escalated (by simp [(renewed d hd).2])
    · exact absurd escalated (by simp [(relaxed d hd).1])
    · exact absurd ⟨at?, by rw [hm]⟩ (last since' now' y.session [])
  · obtain ⟨rfl, rfl, does⟩ := h.began
    obtain ⟨notes, after⟩ := does rfl
    have issued : .issued (.ping []) ∈ (y.session.fire p (at?.getD p)).events :=
      Session.Step.mem_notes.mp (notes ▸ List.mem_cons_self)
    rcases Session.fire_issues issued with ⟨-, awaits⟩ | ⟨hop, -⟩
    · have awaits := (congrArg Session.watchdog after).trans awaits
      rw [awaits, Option.mem_def, Option.some.injEq] at hd
      subst hd
      exact .inl (Nat.le_of_eq (Option.some.inj he))
    · cases hop

/-- Along a track a session is over, or patient with a peer that it probed. -/
theorem Track.patient {n now : Nat} {x y : Scene} {r : List Note} (h : Track n x r now y)
    (ht : Timely r) : 2 < y.session.phase.rank ∨ y.session.Patient r := by
  induction h with
  | refl =>
    refine .inr fun d hd _ before p s' since hf => ?_
    obtain ⟨at?, he⟩ := hf
    simp at he
  | snoc track hn move ih =>
    rcases ih ht.left with gone | patient
    · exact .inl (Nat.lt_of_lt_of_le gone move.forward.2)
    · exact move.patient track hn ht.right patient

theorem Track.config {n now : Nat} {x y : Scene} {r : List Note} (h : Track n x r now y)
    (ht : Timely r) : y.session.config = x.session.config := by
  induction h with
  | refl => rfl
  | snoc track hn move ih => exact (move.tends ht.right.own).1.trans (ih ht.left)

/-- The session that a watchdog drops was waiting for the answer to a probe, if it could send. -/
theorem Track.dropped {n now t : Nat} {x y : Scene} {r before since : List Note} {s : Session}
    (h : Track n x r now y) (ht : Timely r) (hf : Fired r before t s .forceClose since)
    (hs : s.phase.canSend = true) :
    ∃ k now' expiry, Track n x before now' ⟨s, k⟩ ∧ now' ≤ t ∧ expiry ≤ t ∧
      s.watchdog = some ⟨some expiry, some .forceClose⟩ := by
  obtain ⟨k, now', at?, first, le, mem, issued⟩ := h.fired hf nofun
  rcases Session.fire_issues issued with ⟨hop, -⟩ | ⟨-, expiry, wait, hd, due, hw⟩
  · cases hop
  · rw [hw hs] at hd
    exact ⟨k, now', expiry, first, le, Nat.le_trans due (ht.past mem), hd⟩

/-- An established session that is dropped by its watchdog was probed a whole window before; or an
idle window before, if it went on to read, ping or pong. -/
theorem Handler.probe_window {σ : Type} (h : Handler σ) (depth : Nat) (s₀ : Session) (shared : σ)
    {ms : List (Moment σ)} (hm : Clocked ms) (ht : Timely (h.course depth s₀ shared ms).record)
    {before since after rest : List Note} {p t : Nat} {s s' : Session}
    (hp : Fired (h.course depth s₀ shared ms).record before p s (.ping []) rest)
    (hf : Fired rest since t s' .forceClose after) (hs : s'.phase.canSend = true)
    (last : ∀ before' p' s'' since', ¬Fired since before' p' s'' (.ping []) since') :
    p + s₀.config.probe ≤ t ∨
      p + s₀.config.idle ≤ t ∧ ∃ op ∈ operations since, op.rearms = true := by
  obtain ⟨now, track⟩ := h.course_track depth s₀ shared ms hm
  obtain ⟨at?, hp⟩ := hp
  obtain ⟨at', rfl⟩ := hf
  rw [List.append_cons, List.append_cons, ← List.append_assoc] at hp
  rw [hp] at ht track
  obtain ⟨k, now', expiry, first, -, due, hd⟩ := track.dropped ht ⟨at', rfl⟩ hs
  have config := first.config ht.left
  rcases first.patient ht.left with gone | patient
  · exact absurd gone (Nat.not_lt.mpr (Phase.rank_le_of_canSend hs))
  · have := patient _ hd rfl before p s since ⟨at?, by simp⟩ last expiry rfl
    dsimp only at config this
    rw [config] at this
    rcases this with whole | ⟨short, rearmed⟩
    · exact .inl (Nat.le_trans whole due)
    · exact .inr ⟨Nat.le_trans short due, rearmed⟩

/-- A peer that says one thing and is silent from then on. The answer to it is still on its way when
the peer is probed, and the read that follows moves the deadline. -/
def fallingSilent : List (Moment Unit) :=
  [(0, .accept {}), (0, .complete (.accepted (.ok ()))),
    (0, .complete (.read (.ok ⟨.text, [104, 105]⟩))), (1000, .fireTimer none),
    (1000, .complete (.written (.ok 2))), (2000, .fireTimer none)].map
    fun (now, action) => { now, shared := (), action }

/-- An echo service that gives such a peer one second, and then some time for a probe. -/
def hushed (probe : Nat) : Turn Unit :=
  Handler.echo.course 2 (.server 0 ⟨1000, probe, .auto⟩) () fallingSilent

theorem hushed_window :
    Clocked fallingSilent ∧ Timely (hushed 500).record ∧
      ∃ before rest since s s',
        Fired (hushed 500).record before 1000 s (.ping []) rest ∧
        Fired rest since 2000 s' .forceClose [] ∧ s'.phase.canSend = true ∧
        (∀ before' p' s'' since', ¬Fired since before' p' s'' (.ping []) since') ∧
        (1000 + 500 ≤ 2000 ∨ 1000 + 1000 ≤ 2000 ∧ ∃ op ∈ operations since, op.rearms = true) := by
  have clocked : Clocked fallingSilent := by decide
  have timely : Timely (hushed 500).record := ⟨by decide +kernel, by decide +kernel⟩
  obtain ⟨s, probed⟩ : ∃ s, Fired (hushed 500).record ((hushed 500).record.take 15) 1000 s
      (.ping []) ((hushed 500).record.drop 17) := ⟨_, none, rfl⟩
  obtain ⟨s', dropped, established⟩ : ∃ s', Fired ((hushed 500).record.drop 17)
      (((hushed 500).record.drop 17).take 2) 2000 s' .forceClose [] ∧ s'.phase.canSend = true :=
    ⟨_, ⟨none, rfl⟩, rfl⟩
  have last : ∀ before' p' s'' since',
      ¬Fired (((hushed 500).record.drop 17).take 2) before' p' s'' (.ping []) since' :=
    fun _ _ _ _ again => absurd again.issued (by decide +kernel)
  exact ⟨clocked, timely, _, _, _, s, s', probed, dropped, established, last,
    Handler.echo.probe_window 2 (.server 0 ⟨1000, 500, .auto⟩) () clocked timely probed dropped
      established last⟩

/-- With a probe window longer than the idle window, the peer is dropped before its probe window is
over. -/
theorem hushed_cut_short :
    SessionConfig.validate ⟨1000, 10000, .auto⟩ = .ok () ∧ Clocked fallingSilent ∧
      Timely (hushed 10000).record ∧
      ∃ before rest since s s',
        Fired (hushed 10000).record before 1000 s (.ping []) rest ∧
        Fired rest since 2000 s' .forceClose [] ∧ s'.phase.canSend = true ∧
        (∀ before' p' s'' since', ¬Fired since before' p' s'' (.ping []) since') ∧
        ¬1000 + 10000 ≤ 2000 :=
  ⟨rfl, by decide, ⟨by decide +kernel, by decide +kernel⟩, (hushed 10000).record.take 15,
    (hushed 10000).record.drop 17, ((hushed 10000).record.drop 17).take 2, _, _, ⟨none, rfl⟩,
    ⟨none, rfl⟩, rfl, fun _ _ _ _ again => absurd again.issued (by decide +kernel), by decide⟩

end Parley

import Parley.Proofs.Leads

namespace Parley

variable {σ : Type}

/-- What happens to a session from outside. Its handler shares with other sessions, so what it
keeps by then is whatever they left; and handles to the session come and go. -/
structure Moment (σ : Type) where
  now : Nat
  shared : σ
  reachable : Bool := false
  action : Action

/-- Something that happens at the start of time, to a session whose handler keeps nothing. -/
def Moment.plain (action : Action) : Moment Unit := { now := 0, shared := (), action }

/-- A session that nothing has happened to. -/
inductive Session.Fresh : Session → Prop
  | server (id : SessionId) (config : SessionConfig) : Fresh (.server id config)
  | client (id : SessionId) (config : ClientConfig) : Fresh (.client id config)

namespace Turn

def meet (host : Host σ) (t : Turn σ) (m : Moment σ) : Turn σ :=
  perform host
    { t with
      now := m.now, shared := m.shared, draft := {}
      session := { t.session with reachable := m.reachable } } m.action

def follow (host : Host σ) (ms : List (Moment σ)) (t : Turn σ) : Turn σ :=
  ms.foldl (meet host) t

/-- The session was like this when its record had come this far. -/
inductive Shows (t : Turn σ) : Session → List Note → Prop
  | last : t.Shows t.session t.record
  | amid {r q : List Note} {n : Note} {s : Session} (h : t.record = r ++ n :: q)
      (hn : n.session? = some s) : t.Shows s r

end Turn

/-- A session as it comes out of a course of moments, with its record so far. -/
def Handler.course (h : Handler σ) (depth : Nat) (s : Session) (shared : σ)
    (ms : List (Moment σ)) : Turn σ :=
  Turn.follow (h.host depth) ms { now := 0, session := s, shared }

theorem Turn.Shows.prefix {t : Turn σ} {s : Session} {r : List Note} (h : t.Shows s r) :
    r <+: t.record := by
  cases h with
  | last => exact List.prefix_rfl
  | amid h => exact ⟨_, h.symm⟩

theorem notes_session (x : Session.Step) {n : Note} (h : n ∈ x.notes) : n.session? = none := by
  obtain ⟨event, -, rfl⟩ := List.mem_map.mp h
  rfl

/-- Only the first line of a move shows a session, the one that it begins with. -/
theorem Move.shows {now : Nat} {x y : Scene} {m : List Note} (h : Move now x m y) :
    (∀ n ∈ m.head?, ∀ s, n.session? = some s → x.session = s) ∧
      ∀ n ∈ m.tail, n.session? = none := by
  cases h with
  | act | absorb => exact ⟨by simp [Note.session?], fun n hn => notes_session _ hn⟩
  | enter | ask => simp [Note.session?]
  | answer now loan draft s k => exact ⟨by simp [Note.session?], fun n hn => notes_session _ hn⟩
  | flush s k =>
    refine ⟨fun n hn s' hs => ?_, fun n hn => notes_session _ (List.mem_of_mem_tail hn)⟩
    rw [notes_session _ (List.mem_of_mem_head? hn)] at hs
    cases hs
  | reach => simp

theorem Move.first {now : Nat} {x y : Scene} {m r q : List Note} {n : Note} {s : Session}
    (h : Move now x m y) (he : m = r ++ n :: q) (hn : n.session? = some s) :
    r = [] ∧ x.session = s := by
  obtain ⟨head, tail⟩ := h.shows
  cases r with
  | nil => exact ⟨rfl, head n (by simp [he]) s hn⟩
  | cons n' r =>
    have := tail n (by simp [he])
    rw [this] at hn
    cases hn

/-- A move that begins with an action does what the action does, unless a hook is asked first. -/
theorem Move.began {now t : Nat} {x y : Scene} {m : List Note} {s : Session} {a : Action}
    (h : Move now x (.began t s a :: m) y) :
    t = now ∧ x.session = s ∧
      (a.asks s = none → m = (a.effect now s).notes ∧ y.session = (a.effect now s).session) := by
  generalize hl : Note.began t s a :: m = l at h
  cases h with
  | act | absorb =>
    simp only [List.cons.injEq, Note.began.injEq] at hl
    obtain ⟨⟨rfl, rfl, rfl⟩, rfl⟩ := hl
    exact ⟨rfl, rfl, fun _ => ⟨rfl, rfl⟩⟩
  | ask _ c hook s' k ha =>
    simp only [List.cons.injEq, Note.began.injEq] at hl
    obtain ⟨⟨rfl, rfl, rfl⟩, rfl⟩ := hl
    exact ⟨rfl, rfl, fun asks => absurd (ha.symm.trans asks) nofun⟩
  | flush s' =>
    have first := notes_session s'.write (hl ▸ List.mem_cons_self)
    cases first
  | enter | answer | reach => cases hl

/-- A line that shows a session is the first of a move, or was written before it. -/
theorem Move.line {now : Nat} {x y : Scene} {r m p q : List Note} {n : Note} {s : Session}
    (h : Move now x m y) (he : r ++ m = p ++ n :: q) (hn : n.session? = some s) :
    (p = r ∧ m = n :: q ∧ x.session = s) ∨ ∃ q', r = p ++ n :: q' ∧ q = q' ++ m := by
  rcases List.append_eq_append_iff.mp he with ⟨r', hp, hm⟩ | ⟨q', hr, hq⟩
  · obtain ⟨rfl, hs⟩ := h.first hm hn
    exact .inl ⟨by simpa using hp, hm, hs⟩
  · cases q' with
    | nil =>
      obtain ⟨-, hs⟩ := h.first (r := []) hq.symm hn
      exact .inl ⟨by simpa using hr.symm, hq.symm, hs⟩
    | cons n' q' =>
      rw [List.cons_append, List.cons.injEq] at hq
      obtain ⟨rfl, rfl⟩ := hq
      exact .inr ⟨q', hr, rfl⟩

/-- A path goes through every session that its lines show, and on with a move of that line. -/
theorem Path.splits {x y : Scene} {l r q : List Note} {n : Note} {s : Session} (h : Path x l y)
    (he : l = r ++ n :: q) (hn : n.session? = some s) :
    ∃ k now m z q', Path x r ⟨s, k⟩ ∧ Move now ⟨s, k⟩ (n :: m) z ∧ q = m ++ q' ∧ Path z q' y := by
  induction h generalizing q with
  | refl => simp at he
  | @snoc y z l m now hp hm ih =>
    rcases hm.line he hn with ⟨rfl, rfl, rfl⟩ | ⟨q', hl, rfl⟩
    · exact ⟨y.loans, now, q, z, [], hp, hm, by simp, .refl z⟩
    · obtain ⟨k, now', m', z', q'', first, move, rfl, rest⟩ := ih hl
      exact ⟨k, now', m', z', q'' ++ m, first, move, by simp, rest.snoc hm⟩

theorem Path.split {x y : Scene} {l r q : List Note} {n : Note} {s : Session} (h : Path x l y)
    (he : l = r ++ n :: q) (hn : n.session? = some s) :
    ∃ k, Path x r ⟨s, k⟩ ∧ Path ⟨s, k⟩ (n :: q) y := by
  obtain ⟨k, now, m, z, q', first, move, rfl, rest⟩ := h.splits he hn
  exact ⟨k, first, (Path.single move).append rest⟩

/-- Every line of a path is written by one of its moves. -/
theorem Path.cut {x y : Scene} {l p q : List Note} {n : Note} (h : Path x l y)
    (he : l = p ++ n :: q) :
    ∃ l' p' q' now z z', Path x l' z ∧ Move now z (p' ++ n :: q') z' ∧ p = l' ++ p' := by
  induction h generalizing q with
  | refl => simp at he
  | @snoc y z l m now hp hm ih =>
    rcases List.append_eq_append_iff.mp he with ⟨p', rfl, rfl⟩ | ⟨q', hl, hq⟩
    · exact ⟨l, p', q, now, y, z, hp, hm, rfl⟩
    · cases q' with
      | nil =>
        obtain rfl : m = n :: q := hq.symm
        exact ⟨l, [], q, now, y, z, hp, hm, by simpa using hl.symm⟩
      | cons n' q' =>
        obtain ⟨rfl, -⟩ := List.cons.inj hq
        exact ih hl

namespace Host.Sound

variable {host : Host σ}

theorem meet_path (h : host.Sound) (t : Turn σ) (m : Moment σ) (k : List Loan) :
    ∃ l, (t.meet host m).record = t.record ++ l ∧
      (t.meet host m).events = t.events ++ l.filterMap Note.event? ∧
      Path ⟨t.session, k⟩ l ⟨(t.meet host m).session, k⟩ := by
  obtain ⟨-, l, hr, he, hp⟩ := h.perform_leads
    { t with
      now := m.now, shared := m.shared, draft := {}
      session := { t.session with reachable := m.reachable } } m.action
  have reach : Move m.now ⟨t.session, k⟩ [] _ := .reach m.reachable t.session k
  exact ⟨l, hr, he, (Path.single reach).append (hp k).path⟩

theorem follow_path (h : host.Sound) (ms : List (Moment σ)) (t : Turn σ) (k : List Loan) :
    ∃ l, (t.follow host ms).record = t.record ++ l ∧
      (t.follow host ms).events = t.events ++ l.filterMap Note.event? ∧
      Path ⟨t.session, k⟩ l ⟨(t.follow host ms).session, k⟩ := by
  induction ms generalizing t with
  | nil => exact ⟨[], by simp [Turn.follow], by simp [Turn.follow], .refl _⟩
  | cons m ms ih =>
    obtain ⟨l, hl, he, hp⟩ := h.meet_path t m k
    obtain ⟨l', hl', he', hp'⟩ := ih (t.meet host m)
    refine ⟨l ++ l', ?_, ?_, hp.append hp'⟩
    · rw [← List.append_assoc, ← hl]
      exact hl'
    · rw [List.filterMap_append, ← List.append_assoc, ← he]
      exact he'

theorem meet_track (h : host.Sound) (t : Turn σ) (m : Moment σ) (hm : t.now ≤ m.now)
    (k : List Loan) :
    (t.meet host m).now = m.now ∧ ∃ l, (t.meet host m).record = t.record ++ l ∧
      Track t.now ⟨t.session, k⟩ l m.now ⟨(t.meet host m).session, k⟩ := by
  obtain ⟨hn, l, hr, -, hp⟩ := h.perform_leads
    { t with
      now := m.now, shared := m.shared, draft := {}
      session := { t.session with reachable := m.reachable } } m.action
  have reach : Track t.now ⟨t.session, k⟩ [] m.now _ :=
    .snoc (.refl _ _) hm (.reach m.reachable t.session k)
  exact ⟨hn, l, hr, reach.append (hp k)⟩

/-- Where the clock never goes back from one moment to the next, it does so nowhere in between. -/
theorem follow_track (h : host.Sound) (ms : List (Moment σ)) (t : Turn σ) (k : List Loan)
    (hm : (t.now :: ms.map (·.now)).Pairwise (· ≤ ·)) :
    ∃ l, (t.follow host ms).record = t.record ++ l ∧
      Track t.now ⟨t.session, k⟩ l (t.follow host ms).now ⟨(t.follow host ms).session, k⟩ := by
  induction ms generalizing t with
  | nil => exact ⟨[], by simp [Turn.follow], .refl _ _⟩
  | cons m ms ih =>
    obtain ⟨first, rest⟩ := List.pairwise_cons.mp hm
    obtain ⟨hn, l, hl, track⟩ := h.meet_track t m (first m.now (by simp)) k
    obtain ⟨l', hl', track'⟩ := ih (t.meet host m) (by rw [hn]; exact rest)
    rw [hn] at track'
    refine ⟨l ++ l', ?_, track.append track'⟩
    rw [← List.append_assoc, ← hl]
    exact hl'

end Host.Sound

/-- Moments in the order of the clock. -/
def Clocked (ms : List (Moment σ)) : Prop := (ms.map (·.now)).Pairwise (· ≤ ·)

instance (ms : List (Moment σ)) : Decidable (Clocked ms) :=
  inferInstanceAs (Decidable ((ms.map (·.now)).Pairwise (· ≤ ·)))

namespace Handler

variable (h : Handler σ) (depth : Nat) (s : Session) (shared : σ) (ms : List (Moment σ))

/-- The whole course is one path. -/
theorem course_path :
    Path ⟨s, []⟩ (h.course depth s shared ms).record ⟨(h.course depth s shared ms).session, []⟩ := by
  obtain ⟨l, hl, -, hp⟩ :=
    (h.host_sound depth).follow_path ms { now := 0, session := s, shared } []
  rw [List.nil_append] at hl
  exact hl ▸ hp

theorem course_track (hm : Clocked ms) :
    ∃ now, Track 0 ⟨s, []⟩ (h.course depth s shared ms).record now
      ⟨(h.course depth s shared ms).session, []⟩ := by
  obtain ⟨l, hl, track⟩ := (h.host_sound depth).follow_track ms { now := 0, session := s, shared }
    [] (List.pairwise_cons.mpr ⟨fun _ _ => Nat.zero_le _, hm⟩)
  rw [List.nil_append] at hl
  exact ⟨_, hl ▸ track⟩

/-- The record tells of all that happened, and of nothing that did not. -/
theorem course_events :
    (h.course depth s shared ms).events =
      (h.course depth s shared ms).record.filterMap Note.event? := by
  obtain ⟨l, hl, he, -⟩ :=
    (h.host_sound depth).follow_path ms { now := 0, session := s, shared } []
  rw [List.nil_append] at hl he
  exact hl ▸ he

end Handler

namespace Turn.Shows

variable {h : Handler σ} {depth : Nat} {s₀ s s' : Session} {shared : σ} {ms : List (Moment σ)}
  {r r' : List Note}

/-- A course comes to a session that it shows, and goes on from there. -/
theorem through (hs : (h.course depth s₀ shared ms).Shows s r) :
    ∃ k l, (h.course depth s₀ shared ms).record = r ++ l ∧ Path ⟨s₀, []⟩ r ⟨s, k⟩ ∧
      Path ⟨s, k⟩ l ⟨(h.course depth s₀ shared ms).session, []⟩ := by
  have whole := h.course_path depth s₀ shared ms
  cases hs with
  | last => exact ⟨[], [], by simp, whole, .refl _⟩
  | amid he hn =>
    obtain ⟨k, first, rest⟩ := whole.split he hn
    exact ⟨k, _, he, first, rest⟩

theorem path (hs : (h.course depth s₀ shared ms).Shows s r) : ∃ k, Path ⟨s₀, []⟩ r ⟨s, k⟩ := by
  obtain ⟨k, -, -, first, -⟩ := hs.through
  exact ⟨k, first⟩

/-- Of two sessions that a course shows, the later one comes from the earlier one. -/
theorem onward (hs : (h.course depth s₀ shared ms).Shows s r)
    (hs' : (h.course depth s₀ shared ms).Shows s' r') (hr : r <+: r') :
    ∃ k k' l, r' = r ++ l ∧ Path ⟨s₀, []⟩ r ⟨s, k⟩ ∧ Path ⟨s, k⟩ l ⟨s', k'⟩ := by
  obtain ⟨k, l, hl, before, rest⟩ := hs.through
  cases hs' with
  | last => exact ⟨k, [], l, hl, before, rest⟩
  | amid he hn =>
    obtain ⟨l', rfl⟩ := hr
    rw [hl, List.append_assoc, List.append_cancel_left_eq] at he
    obtain ⟨k', first, -⟩ := rest.split he hn
    exact ⟨k, k', l', rfl, before, first⟩

theorem between (hs : (h.course depth s₀ shared ms).Shows s r)
    (hs' : (h.course depth s₀ shared ms).Shows s' r') (hr : r <+: r') :
    ∃ k k' l, r' = r ++ l ∧ Path ⟨s, k⟩ l ⟨s', k'⟩ := by
  obtain ⟨k, k', l, hl, -, rest⟩ := hs.onward hs' hr
  exact ⟨k, k', l, hl, rest⟩

end Turn.Shows

end Parley

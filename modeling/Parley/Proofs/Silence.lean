import Parley.Proofs.Answering
import Parley.Proofs.Probing

namespace Parley

/-- A frame of data is read, or a pong reaches its hook. -/
def Note.hears : Note → Bool
  | .began _ _ (.complete (.read (.ok _))) | .called _ (.pong _) => true
  | _ => false

def Note.instant? : Note → Option Nat
  | .began now _ _ => some now
  | _ => none

/-- The instant at which the last line was written: that of the action under way. -/
def lastInstant (r : List Note) : Nat := (r.filterMap (·.instant?)).getLast?.getD 0

/-- The peer gave a sign of life at this instant. -/
def Heard (r : List Note) (q : Nat) : Prop :=
  ∃ before n after, r = before ++ n :: after ∧ n.hears = true ∧ lastInstant (before ++ [n]) = q

theorem Track.lastInstant_le {n now : Nat} {x y : Scene} {r : List Note} (h : Track n x r now y)
    {p : List Note} (hp : ∀ n ∈ p, n ∈ r) : lastInstant p ≤ now := by
  unfold lastInstant
  cases hl : (p.filterMap (·.instant?)).getLast? with
  | none => exact Nat.zero_le _
  | some q =>
    obtain ⟨n, hn, hq⟩ := List.mem_filterMap.mp (List.mem_of_getLast? hl)
    unfold Note.instant? at hq
    split at hq
    · cases hq
      exact h.past (hp _ hn)
    · cases hq

theorem Track.heard_le {n now q : Nat} {x y : Scene} {r : List Note} (h : Track n x r now y)
    (hq : Heard r q) : q ≤ now := by
  obtain ⟨before, n, after, rfl, -, rfl⟩ := hq
  refine h.lastInstant_le fun n' hn' => ?_
  rw [List.append_cons]
  exact List.mem_append_left after hn'

/-- Nothing is heard in lines that tell of no sign of life. -/
theorem Heard.left {r m : List Note} {q : Nat} (h : Heard (r ++ m) q)
    (hm : ∀ n ∈ m, n.hears = false) : Heard r q := by
  obtain ⟨before, n, after, he, hn, hq⟩ := h
  rcases List.append_eq_append_iff.mp he with ⟨r', rfl, rfl⟩ | ⟨m', rfl, hm'⟩
  · rw [hm n (by simp)] at hn
    cases hn
  · cases m' with
    | nil =>
      rw [List.nil_append] at hm'
      rw [hm n (hm' ▸ List.mem_cons_self)] at hn
      cases hn
    | cons n' m' =>
      rw [List.cons_append, List.cons.injEq] at hm'
      obtain ⟨rfl, rfl⟩ := hm'
      exact ⟨before, n, m', rfl, hn, hq⟩

/-- Signs of life renew the watchdog of a session, or its handler is about to hear of them. -/
theorem Move.hears {now : Nat} {x y : Scene} {m : List Note} (h : Move now x m y) :
    (∀ n ∈ m, n.hears = false) ∨
      (∃ payload, m = [.called x.session (.pong payload), .did (.entered (.pong payload))]) ∨
      x.session.Renewed now y.session ∨ 2 < y.session.phase.rank := by
  have deaf (r : Session.Step) : ∀ n ∈ r.notes, n.hears = false := by
    intro n hn
    obtain ⟨event, -, rfl⟩ := List.mem_map.mp hn
    rfl
  cases h with
  | act _ a s k hc =>
    refine .inl (List.forall_mem_cons.mpr ⟨?_, deaf _⟩)
    cases a <;> first | rfl | exact absurd rfl (hc _)
  | absorb _ c s k ha =>
    by_cases hr : ∃ frame, c = .read (.ok frame)
    · obtain ⟨frame, rfl⟩ := hr
      have closed : s.isClosed = true := by simpa [Session.asks] using ha
      refine .inr (.inr (.inr ?_))
      cases hp : s.phase <;> simp_all [Session.isClosed, Phase.isClosed, Phase.rank, Session.absorb,
        Session.received]
    · refine .inl (List.forall_mem_cons.mpr ⟨?_, deaf _⟩)
      unfold Note.hears
      split <;> simp_all
  | enter hook s k =>
    cases hook with
    | pong payload => exact .inr (.inl ⟨payload, rfl⟩)
    | _ => exact .inl (by simp [Note.hears])
  | ask _ c hook s k ha =>
    obtain ⟨-, ⟨⟨r, rfl⟩, -⟩ | renewed⟩ := s.asking_tended now ha
    · exact .inl (by simp [Note.hears])
    · exact .inr (.inr (.inl renewed))
  | answer _ loan draft s k => exact .inl (List.forall_mem_cons.mpr ⟨rfl, deaf _⟩)
  | flush s k => exact .inl (deaf _)
  | reach => exact .inl (by simp)

/-- A session knows how long its peer has been silent. -/
structure Alert (s : Session) (r : List Note) : Prop where
  rested : ∀ q, Heard r q → ∀ d ∈ s.watchdog, ∀ e ∈ d.expiry, q + s.config.idle ≤ e
  probed : ∀ d ∈ s.watchdog, d.isEscalated = true → ∃ before p s' since,
    Fired r before p s' (.ping []) since ∧ (∀ n ∈ since, n.hears = false) ∧
      ∀ q, Heard before q → q + s.config.idle ≤ p

theorem Alert.renewed {n now : Nat} {x y : Scene} {r : List Note} {s : Session}
    (h : Track n x r now y) (hr : s.Renewed now y.session) (hc : y.session.config = s.config) :
    Alert y.session r := by
  refine ⟨fun q hq d hd e he => ?_, fun d hd escalated => ?_⟩
  · obtain ⟨expiry, -⟩ := hr d hd
    have := h.heard_le hq
    obtain rfl : now + s.config.idle = e := by simpa [expiry] using he
    rw [hc]
    omega
  · exact absurd escalated (by simp [(hr d hd).2])

/-- A move that tells of no sign of life leaves an alert session alert. -/
theorem Move.alert {n now now' : Nat} {x y z : Scene} {r m : List Note} (track : Track n x r now y)
    (hn : now ≤ now') (h : Move now' y m z) (ht : Timely m) (ha : Alert y.session r)
    (deaf : ∀ n ∈ m, n.hears = false) : 2 < z.session.phase.rank ∨ Alert z.session (r ++ m) := by
  obtain ⟨config, tends⟩ := h.tends ht.own
  have track' := track.snoc hn h
  have still : ∀ q, Heard (r ++ m) q → Heard r q := fun q hq => hq.left deaf
  have since : ∀ d ∈ y.session.watchdog, d.isEscalated = true → ∃ before p s' since,
      Fired (r ++ m) before p s' (.ping []) since ∧ (∀ n ∈ since, n.hears = false) ∧
        ∀ q, Heard before q → q + y.session.config.idle ≤ p := by
    intro d hd escalated
    obtain ⟨before, p, s', since, fired, silent, early⟩ := ha.probed d hd escalated
    refine ⟨before, p, s', since ++ m, fired.append m, fun n hn => ?_, early⟩
    exact (List.mem_append.mp hn).elim (silent n) (deaf n)
  rcases tends with (gone | same | ⟨op, -, -, moved⟩ | renewed | relaxed) |
    ⟨⟨e, at?, due, hd, hm⟩, awaits⟩
  · exact .inl gone
  · refine .inr ⟨?_, ?_⟩ <;> rw [same, config]
    · exact fun q hq => ha.rested q (still q hq)
    · exact since
  · refine .inr ⟨fun q hq d hd e he => ?_, fun d hd escalated => ?_⟩
    all_goals
      rw [moved, Option.mem_def, Option.map_eq_some_iff] at hd
      obtain ⟨d', hd', rfl⟩ := hd
    · obtain rfl : now' + y.session.config.idle = e := by simpa [Watchdog.arm] using he
      have := track.heard_le (still q hq)
      rw [config]
      omega
    · rw [config]
      exact since d' hd' escalated
  · exact .inr (.renewed track' renewed config)
  · refine .inr ⟨fun q hq d hd e he => ?_, fun d hd escalated => ?_⟩
    · obtain ⟨d', hd', he'⟩ := (relaxed d hd).2 e he
      rw [config]
      exact ha.rested q (still q hq) d' hd' e he'
    · exact absurd escalated (by simp [(relaxed d hd).1])
  · -- The probe goes out now, when the old deadline has passed.
    have passed : e ≤ now' := Nat.le_trans due (ht.past (s := y.session) (by simp [hm]))
    have silent : ∀ q, Heard r q → q + y.session.config.idle ≤ now' := fun q hq =>
      Nat.le_trans (ha.rested q hq _ hd e rfl) passed
    refine .inr ⟨fun q hq d hd' e' he => ?_, fun d hd' escalated => ?_⟩
    · obtain rfl : ⟨some (now' + y.session.config.probe), some .forceClose⟩ = d := by
        simpa [awaits] using hd'
      obtain rfl : now' + y.session.config.probe = e' := by simpa using he
      have := silent q (still q hq)
      rw [config]
      omega
    · rw [config]
      exact ⟨r, now', y.session, [], ⟨at?, by rw [hm]⟩, by simp, silent⟩

/-- The first answer of a handler that leaves pongs to their default. -/
def Hook.pongAnswer : Hook → Option Action
  | .pong _ => some .keepalive
  | _ => none

/-- The handler leaves pongs to their default. -/
def Handler.KeepsPongs {σ : Type} (h : Handler σ) : Prop :=
  ∀ payload s shared, (h.react (.pong payload) s shared).2 = (Hook.pong payload).standard s

theorem Handler.KeepsPongs.begins {σ : Type} {h : Handler σ} (hk : h.KeepsPongs) :
    h.Begins Hook.pongAnswer := by
  intro hook s shared a ha
  cases hook with
  | pong payload => simpa [hk payload s shared, Hook.standard, Hook.pongAnswer] using ha
  | _ => cases ha

/-- A pong has reached its hook, which has not answered yet. -/
def Ponged (r : List Note) : Prop := ∃ p payload, r = p ++ [.did (.entered (.pong payload))]

/-- The move that follows a pong, if it writes anything, is the answer to it. -/
theorem Move.after_pong {n now now' : Nat} {x y z : Scene} {r m rest : List Note}
    (track : Track n x r now y) (hn : now ≤ now') (h : Move now' y m z)
    (ha : Answered Hook.pongAnswer (r ++ m ++ rest)) (hp : Ponged r) :
    2 < z.session.phase.rank ∨ Alert z.session (r ++ m) ∨ Ponged (r ++ m) := by
  obtain ⟨p, payload, rfl⟩ := hp
  cases m with
  | nil => exact .inr (.inr ⟨p, payload, by simp⟩)
  | cons n m =>
    obtain ⟨t, s, q, hq⟩ := ha p (.pong payload) (n :: m ++ rest) .keepalive (by simp) rfl
    obtain ⟨rfl, rfl⟩ := List.cons.inj hq
    obtain ⟨-, rfl, does⟩ := h.began
    have kept : z.session = y.session.keepalive now' := (does rfl).2
    by_cases hc : y.session.phase = .closed
    · refine .inl (Nat.lt_of_lt_of_le ?_ h.forward.2)
      rw [hc]
      decide
    · refine .inr (.inl (.renewed (s := y.session) (track.snoc hn h) ?_ ?_))
      · rw [kept]
        exact y.session.keepalive_renewed now' hc
      · rw [kept]
        exact y.session.keepalive_config now'

theorem Session.Fresh.new_dog {s : Session} (h : s.Fresh) : ∀ d ∈ s.watchdog, d = .new := by
  cases h <;> simp [Session.server, Session.client]

/-- Along a track a session is over, or alert, or about to be. -/
theorem Track.alert {n now : Nat} {x y : Scene} {r rest : List Note} (h : Track n x r now y)
    (hx : x.session.Fresh) (ht : Timely r) (ha : Answered Hook.pongAnswer (r ++ rest)) :
    2 < y.session.phase.rank ∨ Alert y.session r ∨ Ponged r := by
  induction h generalizing rest with
  | refl =>
    refine .inr (.inl ⟨fun q hq => ?_, fun d hd escalated => ?_⟩)
    · obtain ⟨before, n, after, he, -⟩ := hq
      simp at he
    · rw [hx.new_dog d hd] at escalated
      cases escalated
  | @snoc now' now'' y z l m track hn move ih =>
    rcases ih ht.left (by rw [List.append_assoc] at ha; exact ha) with gone | alert | ponged
    · exact .inl (Nat.lt_of_lt_of_le gone move.forward.2)
    · rcases move.hears with deaf | ⟨payload, rfl⟩ | renewed | gone
      · exact (move.alert track hn ht.right alert deaf).imp_right .inl
      · exact .inr (.inr ⟨l ++ [.called y.session (.pong payload)], payload, by simp⟩)
      · exact .inr (.inl (.renewed (track.snoc hn move) renewed (move.tends ht.right.own).1))
      · exact .inl gone
    · exact move.after_pong track hn ha ponged

/-- An established session is dropped by its watchdog only after a ping that no frame of data and no
pong followed, and that came an idle window after the last of them. -/
theorem Handler.drops_silent {σ : Type} (h : Handler σ) (hk : h.KeepsPongs) (depth : Nat)
    {s₀ : Session} (h₀ : s₀.Fresh) (shared : σ) {ms : List (Moment σ)} (hm : Clocked ms)
    (ht : Timely (h.course depth s₀ shared ms).record) {before after : List Note} {t : Nat}
    {s : Session} (hf : Fired (h.course depth s₀ shared ms).record before t s .forceClose after)
    (hs : s.phase.canSend = true) :
    ∃ asked p s' since, p ≤ t ∧ Fired before asked p s' (.ping []) since ∧
      (∀ n ∈ since, n.hears = false) ∧ ∀ q, Heard asked q → q + s₀.config.idle ≤ p := by
  obtain ⟨now, track⟩ := h.course_track depth s₀ shared ms hm
  have answered := h.course_answered hk.begins depth s₀ shared ms
  obtain ⟨k, now', expiry, first, le, due, hd⟩ := track.dropped ht hf hs
  obtain ⟨at?, hr⟩ := hf
  rw [hr] at ht answered
  rcases first.alert h₀ ht.left answered with gone | alert | ⟨p, payload, rfl⟩
  · exact absurd gone (Nat.not_lt.mpr (Phase.rank_le_of_canSend hs))
  · obtain ⟨asked, p, s', since, fired, silent, early⟩ := alert.probed _ hd rfl
    have config : s.config = s₀.config := first.config ht.left
    refine ⟨asked, p, s', since, ?_, fired, silent, fun q hq => config ▸ early q hq⟩
    exact Nat.le_trans (first.fired_le fired) le
  · -- Between a pong and the answer to it no timer fires.
    rw [List.append_assoc] at answered
    obtain ⟨t', s', q, hq⟩ := answered p (.pong payload) _ .keepalive rfl rfl
    simp at hq

/-- A peer that says one thing, answers a ping and is not heard of again. -/
def lapsing : List (Moment Unit) :=
  [(0, .accept {}), (0, .complete (.accepted (.ok ()))),
    (300, .complete (.read (.ok ⟨.text, [104, 105]⟩))), (310, .complete (.written (.ok 2))),
    (400, .complete (.control .pong [])), (1400, .fireTimer none),
    (1405, .complete (.pinged (.ok ()))), (1900, .fireTimer none)].map
    fun (now, action) => { now, shared := (), action }

def lapsed : Turn Unit := Handler.echo.course 2 (.server 0 ⟨1000, 500, .auto⟩) () lapsing

theorem lapsed_drops_silent :
    (Handler.echo : Handler Unit).KeepsPongs ∧ Session.Fresh (.server 0 ⟨1000, 500, .auto⟩) ∧
      Clocked lapsing ∧ Timely lapsed.record ∧
      ∃ before s, Fired lapsed.record before 1900 s .forceClose [] ∧ s.phase.canSend = true ∧
        ∃ asked p s' since, p ≤ 1900 ∧ Fired before asked p s' (.ping []) since ∧
          (∀ n ∈ since, n.hears = false) ∧ ∀ q, Heard asked q → q + 1000 ≤ p := by
  have keeps : (Handler.echo : Handler Unit).KeepsPongs := fun _ _ _ => rfl
  have fresh : Session.Fresh (.server 0 ⟨1000, 500, .auto⟩) := .server 0 _
  have clocked : Clocked lapsing := by decide
  have timely : Timely lapsed.record := ⟨by decide +kernel, by decide +kernel⟩
  obtain ⟨s, dropped, established⟩ : ∃ s, Fired lapsed.record (lapsed.record.take 24) 1900 s
      .forceClose [] ∧ s.phase.canSend = true := ⟨_, ⟨none, rfl⟩, rfl⟩
  exact ⟨keeps, fresh, clocked, timely, _, s, dropped, established,
    Handler.echo.drops_silent keeps 2 fresh () clocked timely dropped established⟩

end Parley

import Parley.Proofs.Listening

namespace Parley

/-- The completion that came last, and those on which a hook was lent the queue that has not yet
given it back, the latest first. -/
structure Lending where
  latest : Option Completion := none
  running : List Completion := []

def Lending.line (l : Lending) : Note → Lending
  | .began _ _ (.complete c) => { l with latest := some c }
  | .lent _ => { l with running := l.latest.toList ++ l.running }
  | .returned .. => { l with running := l.running.tail }
  | _ => l

def lending (r : List Note) : Lending := r.foldl Lending.line {}

/-- A line that tells of something that the session did. -/
def Note.IsDeed (n : Note) : Prop := ∃ event, n = .did event

theorem Session.Step.notes_deeds (x : Session.Step) : ∀ n ∈ x.notes, n.IsDeed := by
  intro n hn
  obtain ⟨event, -, rfl⟩ := List.mem_map.mp hn
  exact ⟨event, rfl⟩

theorem lending_append (r m : List Note) : lending (r ++ m) = m.foldl Lending.line (lending r) :=
  List.foldl_append

theorem Lending.deeds (l : Lending) {m : List Note} (hm : ∀ n ∈ m, n.IsDeed) :
    m.foldl line l = l := by
  induction m with
  | nil => rfl
  | cons n m ih =>
    obtain ⟨⟨event, rfl⟩, rest⟩ := List.forall_mem_cons.mp hm
    exact ih rest

/-- Whoever is lent the queue is so on a completion that came. -/
theorem lending_mem {r : List Note} {c : Completion}
    (hc : (lending r).latest = some c ∨ c ∈ (lending r).running) :
    ∃ now s, .began now s (.complete c) ∈ r := by
  induction r using List.reverseRecOn with
  | nil => simp [lending] at hc
  | append_singleton r n ih =>
    have before (h : (lending r).latest = some c ∨ c ∈ (lending r).running) :
        ∃ now s, .began now s (.complete c) ∈ r ++ [n] := by
      obtain ⟨now, s, hm⟩ := ih h
      exact ⟨now, s, List.mem_append_left _ hm⟩
    rw [lending_append] at hc
    cases n with
    | began now s a =>
      cases a with
      | complete c' =>
        rcases hc with hc | hc
        · cases hc
          exact ⟨now, s, by simp⟩
        · exact before (.inr hc)
      | _ => exact before hc
    | lent output =>
      rcases hc with hc | hc
      · exact before (.inl hc)
      · rcases List.mem_append.mp hc with hc | hc
        · exact before (.inl (Option.mem_toList.mp hc))
        · exact before (.inr hc)
    | returned output draft => exact before (hc.imp_right List.mem_of_mem_tail)
    | _ => exact before hc

/-- The loans of a scene are those that its record tells of. -/
def Lent (x : Scene) (r : List Note) : Prop :=
  (lending r).running = x.loans.map (·.completion)

theorem Move.lent {now : Nat} {x y : Scene} {r m : List Note} (h : Move now x m y)
    (hr : Lent x r) : Lent y (r ++ m) := by
  unfold Lent at hr ⊢
  rw [lending_append]
  cases h with
  | act now a s k hc =>
    rw [List.foldl_cons, Lending.deeds _ (Session.Step.notes_deeds _)]
    cases a with
    | complete c => exact absurd rfl (hc c)
    | _ => exact hr
  | absorb now c s k =>
    rw [List.foldl_cons, Lending.deeds _ (Session.Step.notes_deeds _)]
    exact hr
  | enter => exact hr
  | ask now c hook s k => exact congrArg (c :: ·) hr
  | answer now loan draft s k =>
    rw [List.foldl_cons, Lending.deeds _ (Session.Step.notes_deeds _)]
    exact congrArg List.tail hr
  | flush s k =>
    rw [Lending.deeds _ (Session.Step.notes_deeds _)]
    exact hr
  | reach => exact hr

/-- A session that has been reading was upgraded before. -/
theorem Living.rank_of_read {s : Session} {r : List Note} (h : Living s.life r)
    (hr : 0 < issued .read r) : 2 ≤ s.phase.rank := by
  obtain ⟨opening, frames, closing, stages, fits⟩ := h.stages
  by_contra early
  have nothing : frames = [] ∧ closing = [] := by
    change s.phase.Fits r opening frames closing at fits
    cases hp : s.phase with
    | created =>
      rw [hp] at fits
      exact fits.2
    | establishing =>
      rw [hp] at fits
      exact fits.2
    | _ => simp [hp, Phase.rank] at early
  have unread : issued .read r = 0 := by
    refine issued_eq_zero fun op hm hk => ?_
    rw [stages.all, nothing.1, nothing.2] at hm
    simp only [List.append_nil, List.mem_append] at hm
    rcases hm with hm | hm
    · have opens := stages.opens op hm
      cases op <;> simp_all [Operation.opens, Operation.kind?]
    · rcases stages.drops with hd | hd <;> simp_all [Operation.kind?]
  omega

namespace Session

/-- A session that can expect frames has asked for one, or writes first and reads then. -/
def Onward (s : Session) : Prop :=
  s.phase.canSend = true → s.readable = false ∨ s.writing = true ∧ s.writeNextRead = true

/-- A write that carries no read is in flight, and something waits behind it. -/
def CutOff (s : Session) : Prop :=
  s.writing = true ∧ s.writeNextRead = false ∧ s.output ≠ []

instance (s : Session) : Decidable s.CutOff :=
  inferInstanceAs (Decidable (_ ∧ _ ∧ _))

/-- Only a completion makes a session readable again that is reading. -/
theorem Step.Balanced.reading {s : Session} {x : Step} (h : x.Balanced s)
    (hr : s.readable = false) : x.session.readable = false := by
  have reads := h.reads
  rw [hr] at reads
  cases hx : x.session.readable with
  | false => rfl
  | true =>
    simp only [hx, Bool.not_true, Bool.toNat_false, Bool.not_false, Bool.toNat_true] at reads
    omega

theorem Step.Balanced.writing {s : Session} {x : Step} (h : x.Balanced s)
    (hw : s.writing = true) : x.session.writing = true := by
  have writes := h.writes
  rw [hw] at writes
  cases hx : x.session.writing with
  | true => rfl
  | false =>
    simp only [hx, Bool.toNat_false, Bool.toNat_true] at writes
    omega

/-- What leaves nobody deaf and takes back nothing that it asked for goes onward. -/
theorem Onward.step {s : Session} {x : Step} (h : s.Onward) (ha : x.Attends s)
    (hb : x.Balanced s) (alive : x.session.phase.canSend = true → s.phase.canSend = true) :
    x.session.Onward := by
  intro can
  rcases h (alive can) with reads | ⟨writes, follows⟩
  · exact .inl (hb.reading reads)
  · exact .inr ⟨hb.writing writes, ha.follows follows⟩

theorem read_onward (now : Nat) (s : Session) : (s.read now).session.Onward := by
  intro can
  left
  unfold read at can ⊢
  split
  · rfl
  · rename_i idle
    rw [if_neg idle] at can
    have can : s.phase.canSend = true := can
    simpa [can] using idle

/-- A session that is told to go on does so, outside of hooks and with no other write in flight that
has no read to carry. -/
theorem advance_onward (now : Nat) {s : Session} (hi : s.inHook = false) :
    (s.advance now true).session.Onward ∨ (s.advance now true).session.CutOff := by
  unfold advance
  split
  · rename_i closed
    left
    intro can
    cases hp : s.phase <;> simp_all [isClosed, Phase.isClosed, Phase.canSend]
  split
  · rename_i queued
    unfold flush
    split
    · exact .inl fun _ => .inr ⟨rfl, rfl⟩
    · rename_i held
      cases hw : s.writing with
      | false =>
        left
        intro (can : s.phase.canSend = true)
        exact absurd (by simp_all) held
      | true =>
        cases hf : s.writeNextRead with
        | true => exact .inl fun _ => .inr ⟨hw, hf⟩
        | false => exact .inr ⟨hw, hf, by simpa using queued⟩
  · rw [if_pos rfl]
    exact .inl (s.read_onward now)

theorem advance_inHook (now : Nat) (nextRead : Bool) (s : Session) :
    (s.advance now nextRead).session.inHook = s.inHook := by
  unfold advance flush read
  repeat' split
  all_goals rfl

theorem fail_over (op : String) (error : TransportError) (s : Session) :
    (s.fail op error).session.inHook = s.inHook ∧
      (s.fail op error).session.phase.canSend = false := by
  unfold fail forceClose
  repeat' split
  all_goals exact ⟨rfl, rfl⟩

/-- A completion that is no read, of a session that is upgraded, leads onward. -/
theorem absorb_onward (now : Nat) {c : Completion} {s : Session} (h : s.Onward)
    (hi : s.inHook = false) (hp : 2 ≤ s.phase.rank) (hc : c.kind? ≠ some .read)
    (alive : (s.absorb now c).session.phase.canSend = true → s.phase.canSend = true) :
    (s.absorb now c).session.inHook = false ∧ (s.absorb now c).session.Onward := by
  have balanced := s.absorb_balanced now c
  have failed (op : String) (error : TransportError) (s' : Session) (hs : s'.inHook = false) :
      (s'.fail op error).session.inHook = false ∧ (s'.fail op error).session.Onward := by
    obtain ⟨hook, mute⟩ := fail_over op error s'
    exact ⟨hook.trans hs, fun can => absurd (mute.symm.trans can) Bool.false_ne_true⟩
  rcases c with (e | _) | (e | response) | (e | frame) | (e | n) | (e | _) | (e | _) | (e | _) |
    ⟨kind, payload⟩
  case accepted.error | handshaked.error | written.error | pinged.error | ponged.error |
      closed.error =>
    exact failed _ e _ hi
  case read.error | read.ok => exact absurd rfl hc
  case accepted.ok | handshaked.ok =>
    cases hq : s.phase with
    | created | establishing => simp [hq, Phase.rank] at hp
    | _ =>
      simp only [absorb, hq]
      exact ⟨hi, h⟩
  case written.ok =>
    refine ⟨(advance_inHook now _ _).trans hi, fun can => ?_⟩
    rcases h (alive can) with reads | ⟨writes, follows⟩
    · exact .inl (balanced.reading reads)
    · have home : (s.received (.written (.ok n))).inHook = false := hi
      have goesOn := advance_onward now home
      have carries := (advance_attends now (s.received (.written (.ok n)))).follows rfl
      simp only [absorb, follows] at can ⊢
      rcases goesOn with onward | ⟨-, silent, -⟩
      · exact onward can
      · rw [carries] at silent
        cases silent
  case pinged.ok | ponged.ok =>
    exact ⟨(read_attends now _).inHook.trans hi, read_onward now _⟩
  case closed.ok =>
    unfold absorb
    dsimp only
    split <;> exact ⟨hi, fun can => absurd can Bool.false_ne_true⟩
  case control => exact ⟨hi, h⟩

end Session

/-- A session that reads on, once it is upgraded and while nobody is lent its queue. -/
structure Pursues (x : Scene) : Prop where
  alone : x.loans = []
  home : x.session.inHook = false
  upgraded : 2 ≤ x.session.phase.rank
  onward : x.session.Onward

/-- A session that an upgraded one becomes can send no more than that. -/
theorem Move.alive {now : Nat} {x y : Scene} {m : List Note} (h : Move now x m y)
    (hu : 2 ≤ x.session.phase.rank) (can : y.session.phase.canSend = true) :
    x.session.phase.canSend = true :=
  Phase.canSend_of_rank hu (Nat.le_trans h.forward.2 (Phase.rank_le_of_canSend can))

theorem Move.pursues {now : Nat} {x y : Scene} {m : List Note} (h : Move now x m y)
    (hx : Pursues x) (hn : ∀ n ∈ m, n.answer? ≠ some .read) : Pursues y := by
  have upgraded := Nat.le_trans hx.upgraded h.forward.2
  have alive := h.alive hx.upgraded
  cases h with
  | act now a s k hc =>
    have attends := a.effect_attends now s hc
    refine ⟨hx.alone, attends.inHook.trans hx.home, upgraded, ?_⟩
    by_cases hl : a = .transportLost
    · subst hl
      exact fun can => absurd can Bool.false_ne_true
    · exact hx.onward.step attends (a.effect_balanced now s hc hl) alive
  | absorb now c s k =>
    obtain ⟨home, onward⟩ := Session.absorb_onward now hx.onward hx.home hx.upgraded
      (hn _ List.mem_cons_self) alive
    exact ⟨hx.alone, home, upgraded, onward⟩
  | enter hook s k => exact hx
  | ask now c hook s k ha =>
    have early : s.phase ≠ .establishing := by
      intro he
      have := hx.upgraded
      simp [he, Phase.rank] at this
    have unread := hn _ List.mem_cons_self
    unfold Session.asks at ha
    split at ha
    · split at ha
      · exact absurd ‹_› early
      · cases ha
    · split at ha
      · exact absurd ‹_› early
      · cases ha
    · exact absurd rfl unread
    · cases ha
  | answer now loan draft s k => cases hx.alone
  | flush s k =>
    exact ⟨hx.alone, (s.flush_attends).inHook.trans hx.home, upgraded,
      hx.onward.step s.flush_attends (s.flush_balanced true) alive⟩
  | reach held s k => exact ⟨hx.alone, hx.home, upgraded, hx.onward⟩

/-- Until the next frame is read, a session that reads on goes on doing so. -/
theorem Path.pursues {x y : Scene} {l : List Note} (h : Path x l y) (hx : Pursues x)
    (hn : ∀ n ∈ l, n.answer? ≠ some .read) : Pursues y := by
  have kept := h.keeps (P := fun y l => (∀ n ∈ l, n.answer? ≠ some .read) → Pursues y)
    (fun x l m y ih hm hn => ?_) (fun _ => hx)
  · exact kept hn
  · have before := ih fun n hl => hn n (List.mem_append_left m hl)
    exact hm.pursues before fun n hm => hn n (List.mem_append_right l hm)

/-- A hook gives its draft back in this move, or did in an earlier one. -/
theorem Move.returns {now : Nat} {x y : Scene} {r m p q : List Note} {lent : Bytes} {draft : Draft}
    (h : Move now x m y) (he : r ++ m = p ++ .returned lent draft :: q) :
    (p = r ∧ ∃ loan s k, x = ⟨s, loan :: k⟩ ∧
      y = ⟨((s.restore draft.output).resume now loan.completion draft).session, k⟩) ∨
    ∃ q', r = p ++ .returned lent draft :: q' ∧ q = q' ++ m := by
  have undone (x : Session.Step) : .returned lent draft ∉ x.notes := by
    intro hm
    obtain ⟨event, hd⟩ := x.notes_deeds _ hm
    cases hd
  -- Of the lines of one move only the first can tell of it.
  have here (p' : List Note) (hm : m = p' ++ .returned lent draft :: q) :
      p' = [] ∧ ∃ loan s k, x = ⟨s, loan :: k⟩ ∧
        y = ⟨((s.restore draft.output).resume now loan.completion draft).session, k⟩ := by
    have mem : .returned lent draft ∈ m := by simp [hm]
    cases h with
    | answer now loan draft' s k =>
      cases p' with
      | nil =>
        simp only [List.nil_append, List.cons.injEq, Note.returned.injEq] at hm
        obtain ⟨⟨-, rfl⟩, -⟩ := hm
        exact ⟨rfl, loan, s, k, rfl, rfl⟩
      | cons n p =>
        rw [List.cons_append, List.cons.injEq] at hm
        exact absurd (hm.2 ▸ List.mem_append_right p List.mem_cons_self) (undone _)
    | act | absorb =>
      rcases List.mem_cons.mp mem with hd | hd
      · cases hd
      · exact absurd hd (undone _)
    | flush s k => exact absurd mem (undone _)
    | enter | ask | reach => simp at mem
  rcases List.append_eq_append_iff.mp he with ⟨p', rfl, hm⟩ | ⟨q', rfl, hq⟩
  · obtain ⟨rfl, first⟩ := here p' hm
    exact .inl ⟨List.append_nil r, first⟩
  · cases q' with
    | nil =>
      obtain ⟨-, first⟩ := here [] hq.symm
      exact .inl ⟨(List.append_nil p).symm, first⟩
    | cons n q' =>
      rw [List.cons_append, List.cons.injEq] at hq
      obtain ⟨rfl, rfl⟩ := hq
      exact .inr ⟨q', rfl, rfl⟩

/-- A session that the hook of a message has told to read on. -/
structure Urged (x : Scene) : Prop where
  alone : x.loans = []
  home : x.session.inHook = false
  upgraded : 2 ≤ x.session.phase.rank
  goes : x.session.Onward ∨ x.session.CutOff

/-- What goes out by itself changes nothing about that. -/
theorem Move.urged {now : Nat} {x y : Scene} {m : List Note} (h : Move now x m y) (hx : Urged x)
    (hm : ∀ n ∈ m, n.IsDeed) : Urged y := by
  have upgraded := Nat.le_trans hx.upgraded h.forward.2
  have alive := h.alive hx.upgraded
  cases h with
  | flush s k =>
    refine ⟨hx.alone, (s.flush_attends).inHook.trans hx.home, upgraded, ?_⟩
    rcases hx.goes with onward | cut
    · exact .inl (onward.step s.flush_attends (s.flush_balanced true) alive)
    · -- As long as a write is in flight, no other goes out.
      have writing : s.writing = true := cut.1
      have held : s.write = s.stay := by simp [Session.write, Session.flush, writing]
      rw [held]
      exact .inr cut
  | reach held s k => exact ⟨hx.alone, hx.home, upgraded, hx.goes⟩
  | act | absorb | enter | ask | answer =>
    obtain ⟨event, he⟩ := hm _ List.mem_cons_self
    cases he

theorem Session.resume_read (now : Nat) (frame : Frame) {draft : Draft} (s : Session)
    (hn : draft.nextRead = true) :
    s.resume now (.read (.ok frame)) draft =
      (if s.frameMode = .auto then { s with outgoing := frame.kind } else s).advance now true := by
  cases hr : s.role <;> simp only [resume, hr, hn]

/-- What a record tells of the hook of a message that was called by no other hook with an output: it
has given its draft back, asks to be read on, and nothing else began since. -/
def Urges (r : List Note) : Prop :=
  ∃ before lent draft deeds frame, r = before ++ .returned lent draft :: deeds ∧
    (∀ n ∈ deeds, n.IsDeed) ∧ (lending before).running = [.read (.ok frame)] ∧
    draft.nextRead = true

theorem Move.urges {now : Nat} {x y : Scene} {r m : List Note} (h : Move now x m y)
    (hl : Living x.session.life r) (hr : Lent x r) (hf : Fair r) (hx : Urges r → Urged x)
    (hy : Urges (r ++ m)) : Urged y := by
  obtain ⟨before, lent, draft, deeds, frame, he, done, running, follows⟩ := hy
  rcases h.returns he with ⟨rfl, loan, s, k, rfl, rfl⟩ | ⟨p, rfl, rfl⟩
  · rw [Lent, running] at hr
    obtain ⟨hc, hk⟩ : loan.completion = .read (.ok frame) ∧ k = [] := by
      simpa using hr.symm
    obtain ⟨t, s', came⟩ : ∃ t s', .began t s' (.complete (.read (.ok frame))) ∈ before :=
      lending_mem (.inr (running ▸ List.mem_cons_self))
    have heard : 0 < answered .read before := List.countP_pos_iff.mpr ⟨_, came, rfl⟩
    have upgraded := hl.rank_of_read (Nat.lt_of_lt_of_le heard (hf.answered_le .read))
    have onward := Nat.le_trans upgraded h.forward.2
    have home : (if (s.restore draft.output).frameMode = .auto then
        { s.restore draft.output with outgoing := frame.kind }
        else s.restore draft.output).inHook = false := by split <;> rfl
    rw [hc, Session.resume_read now frame _ follows] at onward ⊢
    exact ⟨hk, (Session.advance_inHook now true _).trans home, onward,
      Session.advance_onward now home⟩
  · have earlier : Urges (before ++ .returned lent draft :: p) :=
      ⟨before, lent, draft, p, frame, rfl, fun n hn => done n (List.mem_append_left m hn), running,
        follows⟩
    exact h.urged (hx earlier) fun n hn => done n (List.mem_append_right p hn)

theorem Path.urges {x y : Scene} {r : List Note} (h : Path x r y) (hl : Living x.session.life [])
    (hx : x.loans = []) (hf : Fair r) (hr : Urges r) : Urged y := by
  have kept := h.keeps (P := fun y r => Fair r → Living y.session.life r ∧ Lent y r ∧
      (Urges r → Urged y)) (fun x r m y ih hm hf => ?_) (fun _ => ⟨hl, ?_, ?_⟩)
  · exact (kept hf).2.2 hr
  · obtain ⟨living, lent, urged⟩ := ih hf.left
    exact ⟨hm.living living, hm.lent lent, hm.urges living lent hf.left urged⟩
  · rw [Lent, hx]
    rfl
  · rintro ⟨before, lent, draft, deeds, frame, he, -⟩
    simp at he

/-- An idle session that goes on writes what is queued, or reads. -/
theorem Session.advance_issues (now : Nat) {s : Session} (hi : s.inHook = false)
    (hw : s.writing = false) (can : s.phase.canSend = true) :
    (s.output ≠ [] → ∀ follow, (s.advance now follow).events =
        [.issued (.write s.outgoing s.output)]) ∧
      (s.output = [] → s.readable = true → (s.advance now true).events = [.issued .read]) := by
  have alive := Session.open_of_canSend can
  constructor
  · intro queued follow
    have filled : s.output.isEmpty = false := List.isEmpty_eq_false_iff.mpr queued
    simp [advance, flush, alive, filled, hi, hw, can]
  · intro empty idle
    simp [advance, read, alive, empty, idle, can]

/-- A client whose hook of a message asks to be read on is: until the next frame is read, and as
long as it is established, a read is outstanding or a write that carries one, and when a write is
out, what is queued goes out in turn, or else a read does. So it is unless, when the hook returns, a
write without a read is in flight, with something queued behind it, and no read is outstanding. -/
theorem Handler.client_reads_on {σ : Type} (h : Handler σ) (depth : Nat) (id : SessionId)
    (config : ClientConfig) (shared : σ) (ms : List (Moment σ))
    (hf : Fair (h.course depth (.client id config) shared ms).record) {s s' : Session}
    {r l : List Note} (told : (h.course depth (.client id config) shared ms).Shows s r)
    (urges : Urges r) (free : s.CutOff → s.readable = false)
    (later : (h.course depth (.client id config) shared ms).Shows s' (r ++ l))
    (unread : ∀ n ∈ l, n.answer? ≠ some .read) {since : Nat}
    (established : s'.phase = .established since) :
    (0 < outstanding .read (r ++ l) ∨
        0 < outstanding .write (r ++ l) ∧ s'.writeNextRead = true) ∧
      ∀ now n q, (h.course depth (.client id config) shared ms).record =
          r ++ l ++ .began now s' (.complete (.written (.ok n))) :: q →
        (s'.output ≠ [] → ∃ q', q = .did (.issued (.write s'.outgoing s'.output)) :: q') ∧
          (s'.output = [] →
            0 < outstanding .read (r ++ l) ∨ ∃ q', q = .did (.issued .read) :: q') := by
  have can : s'.phase.canSend = true := Phase.canSend_iff.mpr ⟨since, established⟩
  obtain ⟨k, k', l', hl, before, between⟩ := told.onward later (List.prefix_append r l)
  obtain rfl := List.append_cancel_left hl
  have fair := hf.of_prefix later.prefix
  have urged := before.urges (.fresh (.client id config)) rfl fair.left urges
  have onward : s.Onward := by
    rcases urged.goes with onward | cut
    · exact onward
    · exact fun _ => .inl (free cut)
  have pursues := between.pursues ⟨urged.alone, urged.home, urged.upgraded, onward⟩ unread
  have tallied : Tallied s' (r ++ l) :=
    (before.append between).tallied (.fresh (.client id config)) fair
  have reading (reads : s'.readable = false) : 0 < outstanding .read (r ++ l) := by
    have read : (!s'.readable).toNat = 1 := by rw [reads]; rfl
    have := tallied.reads
    unfold outstanding
    omega
  refine ⟨?_, fun now n q he => ?_⟩
  · rcases pursues.onward can with reads | ⟨writes, follows⟩
    · exact .inl (reading reads)
    · have written : s'.writing.toNat = 1 := by rw [writes]; rfl
      have := tallied.writes
      refine .inr ⟨?_, follows⟩
      unfold outstanding
      omega
  · have whole := h.course_path depth (.client id config) shared ms
    obtain ⟨k'', now', m, z, q', -, move, rfl, -⟩ := whole.splits he rfl
    obtain ⟨rfl, -, does⟩ := move.began
    obtain ⟨rfl, -⟩ := does rfl
    obtain ⟨writes, reads⟩ :=
      (s'.received (.written (.ok n))).advance_issues now pursues.home rfl can
    refine ⟨fun queued => ⟨q', ?_⟩, fun empty => ?_⟩
    · simp only [Action.effect, Session.absorb, Session.Step.notes]
      rw [writes queued]
      rfl
    · rcases pursues.onward can with busy | ⟨-, follows⟩
      · exact .inl (reading busy)
      cases idle : s'.readable with
      | false => exact .inl (reading idle)
      | true =>
        refine .inr ⟨q', ?_⟩
        have follows : s'.writeNextRead = true := follows
        simp only [Action.effect, Session.absorb, Session.Step.notes]
        rw [follows, reads empty idle]
        rfl

/-- Listens from the start and says a first word, which may carry a read too, and answers every
message with another word. -/
def Handler.bashful (follow : Bool) : Handler Unit where
  react hook session shared :=
    (shared, match hook with
      | .handshake .. => [.read, .append [97], .nextRead follow]
      | .message .. => [.append [98]]
      | _ => hook.standard session)

/-- A message comes while the first word is being written, and then both words are out. -/
def exchange : List (Moment Unit) :=
  [.connected, .complete (.handshaked (.ok ⟨101, []⟩)), .complete (.read (.ok ⟨.text, [104, 105]⟩)),
    .complete (.written (.ok 1)), .complete (.written (.ok 1))].map .plain

def exchanged (follow : Bool) : Turn Unit :=
  (Handler.bashful follow).course 2 (.client 0 {}) () exchange

/-- The record as it is when the message has been answered. -/
theorem exchanged_urges (follow : Bool) : Urges ((exchanged follow).record.take 21) := by
  cases follow with
  | false =>
    exact ⟨(exchanged false).record.take 20, [], { output := [98] }, [], ⟨.text, [104, 105]⟩, rfl,
      by simp, rfl, rfl⟩
  | true =>
    exact ⟨(exchanged true).record.take 20, [], { output := [98] }, [], ⟨.text, [104, 105]⟩, rfl,
      by simp, rfl, rfl⟩

theorem exchanged_reads_on :
    Fair (exchanged true).record ∧ ∃ s, (exchanged true).Shows s ((exchanged true).record.take 21) ∧
      Urges ((exchanged true).record.take 21) ∧ s.writing = true ∧ ¬s.CutOff ∧
      (exchanged true).session.phase = .established 0 ∧
      (0 < outstanding .read (exchanged true).record ∨
        0 < outstanding .write (exchanged true).record ∧
          (exchanged true).session.writeNextRead = true) ∧
      (exchanged true).record[22]?.bind (·.operation?) = some (.write .text [98]) := by
  have fair : Fair (exchanged true).record := by decide +kernel
  obtain ⟨s, split, writing, free, established, output, outgoing⟩ : ∃ s,
      (exchanged true).record = (exchanged true).record.take 21 ++
        .began 0 s (.complete (.written (.ok 1))) :: (exchanged true).record.drop 22 ∧
      s.writing = true ∧ ¬s.CutOff ∧ s.phase = .established 0 ∧ s.output = [98] ∧
      s.outgoing = .text :=
    ⟨_, rfl, rfl, by decide +kernel, rfl, rfl, rfl⟩
  have told : (exchanged true).Shows s ((exchanged true).record.take 21) := .amid split rfl
  have whole : (exchanged true).record.take 21 ++ (exchanged true).record.drop 21 =
      (exchanged true).record := List.take_append_drop 21 _
  have final : (exchanged true).Shows (exchanged true).session
      ((exchanged true).record.take 21 ++ (exchanged true).record.drop 21) := whole.symm ▸ .last
  have urges := exchanged_urges true
  have free' : s.CutOff → s.readable = false := fun cut => absurd cut free
  have here := (Handler.bashful true).client_reads_on 2 0 {} () exchange fair told urges free' final
    (by decide +kernel) (show (exchanged true).session.phase = .established 0 from rfl)
  obtain ⟨q, writes⟩ := ((Handler.bashful true).client_reads_on 2 0 {} () exchange fair told urges
    free' (l := []) (by rwa [List.append_nil]) (by simp) established).2 0 1 _
      (by rw [List.append_nil]; exact split) |>.1 (by rw [output]; simp)
  rw [whole] at here
  refine ⟨fair, s, told, urges, writing, free, rfl, here.1, ?_⟩
  rw [split, writes, output, outgoing]
  rfl

/-- A word that is queued behind a write without a read goes out without one too, although its hook
asks to be read on: the client is deaf once both are out. -/
theorem exchanged_deaf :
    Fair (exchanged false).record ∧ KeptLine (exchanged false).record ∧
      Urges ((exchanged false).record.take 21) ∧
      (∀ n ∈ (exchanged false).record.drop 21, n.answer? ≠ some .read) ∧
      (exchanged false).session.phase = .established 0 ∧
      outstanding .read (exchanged false).record = 0 ∧
      outstanding .write (exchanged false).record = 0 := by
  refine ⟨?_, ?_, exchanged_urges false, ?_, ?_, ?_, ?_⟩ <;> decide +kernel

end Parley

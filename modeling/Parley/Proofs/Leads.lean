import Parley.Proofs.Move

namespace Parley

variable {σ : Type}

/-- One turn comes from another by moves, which its record and its events list. -/
def Turn.Leads (t t' : Turn σ) : Prop :=
  t'.now = t.now ∧ ∃ l, t'.record = t.record ++ l ∧
    t'.events = t.events ++ l.filterMap Note.event? ∧
    ∀ k, Track t.now ⟨t.session, k⟩ l t.now ⟨t'.session, k⟩

/-- Hooks and bodies do nothing but act on the session. -/
structure Host.Sound (host : Host σ) : Prop where
  call (hook : Hook) (t : Turn σ) (h : hook.outlives ∨ t.session.phase ≠ .closed) :
    t.Leads (host.call hook t)
  run (body : List Action) (t : Turn σ) : t.Leads (host.run body t)

theorem notes_events (r : Session.Step) : r.notes.filterMap Note.event? = r.events := by
  simp [Session.Step.notes, List.filterMap_map, Function.comp_def, Note.event?]

namespace Turn.Leads

theorem refl (t : Turn σ) : t.Leads t :=
  ⟨rfl, [], by simp, by simp, fun k => .refl _ _⟩

theorem trans {t t' t'' : Turn σ} (h : t.Leads t') (h' : t'.Leads t'') : t.Leads t'' := by
  obtain ⟨hn, l, hr, he, hp⟩ := h
  obtain ⟨hn', l', hr', he', hp'⟩ := h'
  rw [hn] at hp'
  exact ⟨hn'.trans hn, l ++ l', by simp [hr, hr'], by simp [he, he'], fun k => (hp k).append (hp' k)⟩

theorem single {t t' : Turn σ} {m : List Note} (hn : t'.now = t.now)
    (hr : t'.record = t.record ++ m) (he : t'.events = t.events ++ m.filterMap Note.event?)
    (hm : ∀ k, Move t.now ⟨t.session, k⟩ m ⟨t'.session, k⟩) : t.Leads t' :=
  ⟨hn, m, hr, he, fun k => .single (hm k)⟩

theorem act {t t' : Turn σ} {a : Action} (ha : a.asks t.session = none)
    (hn : t'.now = t.now) (hs : t'.session = (a.effect t.now t.session).session)
    (hr : t'.record = t.record ++ .began t.now t.session a :: (a.effect t.now t.session).notes)
    (he : t'.events = t.events ++ (a.effect t.now t.session).events) : t.Leads t' := by
  refine single hn hr (by simp [he, List.filterMap_cons, Note.event?, notes_events]) ?_
  intro k
  rw [hs]
  exact .of_action t.now k ha

end Turn.Leads

theorem Host.Sound.call_leads {host : Host σ} (h : host.Sound) (hook : Hook) (t : Turn σ)
    (hh : hook.outlives ∨ t.session.phase ≠ .closed) : t.Leads (t.call host hook) :=
  h.call hook { t with draft := {} } hh

theorem Host.Sound.run_leads {host : Host σ} (h : host.Sound) (body : List Action) (t : Turn σ) :
    t.Leads (t.run host body) :=
  h.run body { t with draft := {} }

theorem fire_leads {host : Host σ} (h : host.Sound) (t : Turn σ) (instant? : Option Nat) :
    t.Leads (t.perform host (.fireTimer instant?)) := by
  rcases hp : t.session.poll (instant?.getD t.now) with ⟨action?, s⟩
  have hf : (Action.fireTimer instant?).effect t.now t.session =
      t.session.fire t.now (instant?.getD t.now) := rfl
  simp only [Turn.perform, Turn.carryOut, Turn.fireTimer, Turn.note, hp]
  simp only [Session.fire, hp] at hf
  rcases action? with _ | (_ | body | _)
  · refine .act (a := .fireTimer instant?) rfl ?_ ?_ ?_ ?_ <;>
      simp [hf, Session.stay, Session.Step.notes]
  · dsimp only at hf ⊢
    split
    all_goals
      simp_all only [if_true, if_false, Bool.false_eq_true]
      refine .act (a := .fireTimer instant?) rfl ?_ ?_ ?_ ?_ <;>
        simp [hf, Turn.update, Turn.step, Session.Step.notes]
  · refine .trans (.act (a := .fireTimer instant?) rfl ?_ ?_ ?_ ?_) (h.run_leads body _) <;>
      simp [hf, Session.stay, Session.Step.notes]
  · refine .act (a := .fireTimer instant?) rfl ?_ ?_ ?_ ?_ <;>
      simp [hf, Turn.step, Session.Step.notes]

theorem asking_phase {s : Session} {c : Completion} {hook : Bytes → Hook}
    (ha : s.asks c = some hook) (now : Nat) : (s.asking now c).phase ≠ .closed := by
  unfold Session.asks at ha
  split at ha
  · simp [Session.asking]
  · simp [Session.asking, Session.keepalive_eq]
  · intro hc
    simp_all [Session.asking, Session.peerActive, Session.received, Session.isClosed, Phase.isClosed]
  · cases ha

theorem asking_output (now : Nat) (c : Completion) (s : Session) :
    (s.asking now c).output = s.output := by
  unfold Session.asking
  split <;> simp [Session.received, Session.keepalive_eq, Session.peerActive]
  split <;> rfl

theorem consult_eq {host : Host σ} {hook : Bytes → Hook} {t told : Turn σ}
    (h : host.call (hook t.session.output)
      { t with
        session := t.session.lend, draft := { output := t.session.output }
        record := t.record ++ [.lent t.session.output] } = told) :
    t.consult host hook =
      ({ told with
          session := told.session.restore told.draft.output, draft := t.draft
          record := told.record ++ [.returned t.session.output told.draft] }, told.draft) := by
  subst h
  rfl

/-- A completion that asks the handler: the question, the hook, and what follows the answer. -/
theorem consult_leads {host : Host σ} (h : host.Sound) (t u : Turn σ) (c : Completion)
    (hook : Bytes → Hook) (ha : t.session.asks c = some hook) (hu : u.now = t.now)
    (hs : u.session = t.session.asking t.now c) (he : u.events = t.events)
    (hr : u.record = t.record ++ [.began t.now t.session (.complete c)]) :
    t.Leads ((u.consult host hook).1.step
      (·.resume (u.consult host hook).1.now c (u.consult host hook).2)) := by
  have ho : u.session.output = t.session.output := by rw [hs, asking_output]
  have hask := Move.ask t.now c hook t.session
  generalize hq : ({ u with
    session := u.session.lend, draft := { output := u.session.output }
    record := u.record ++ [.lent u.session.output] } : Turn σ) = asked
  obtain ⟨hn, l, hl, hv, hp⟩ := h.call (hook u.session.output) asked (.inr (by
    simpa [← hq, hs, Session.lend] using asking_phase ha t.now))
  generalize ht : host.call (hook u.session.output) asked = told at hn hl hv hp
  subst hq
  have hnow : told.now = t.now := hn.trans hu
  rw [consult_eq ht]
  dsimp only
  rw [hnow]
  let after := (told.session.restore told.draft.output).resume t.now c told.draft
  refine ⟨by simp [Turn.step],
    [.began t.now t.session (.complete c), .lent t.session.output] ++ l ++
    .returned t.session.output told.draft :: after.notes, ?_, ?_, fun k => ?_⟩
  · simp [Turn.step, hl, hr, ho, Session.Step.notes, after]
  · simp [Turn.step, hv, he, Note.event?, notes_events, after, List.filterMap_cons]
  · have first := Track.single (hask k ha)
    have inside := hp (⟨c, t.session.output⟩ :: k)
    dsimp only at inside
    rw [hu] at inside
    rw [← hs] at first
    exact (first.append inside).snoc (Nat.le_refl _)
      (.answer t.now ⟨c, t.session.output⟩ told.draft told.session k)

theorem accepted_leads {host : Host σ} (h : host.Sound) (t : Turn σ) :
    t.Leads (t.perform host (.complete (.accepted (.ok ())))) := by
  have act {t' : Turn σ} := @Turn.Leads.act σ t t' (.complete (.accepted (.ok ())))
  simp only [Turn.perform, Turn.carryOut, Turn.complete, Turn.settle, Turn.accepted, Turn.note,
    Turn.update]
  cases hp : t.session.phase with
  | establishing =>
    cases hr : t.session.role with
    | server =>
      have := consult_leads h t
        { t with
          session := t.session.asking t.now (.accepted (.ok ()))
          record := t.record ++ [.began t.now t.session (.complete (.accepted (.ok ())))] }
        (.accepted (.ok ())) .accept (by simp [Session.asks, hp, hr]) rfl rfl rfl rfl
      simpa [Phase.completeEstablish, Session.asking, Session.received, Session.resume, hr, hp]
        using this
    | client =>
      refine act (by simp [Action.asks, Session.asks, hr]) ?_ ?_ ?_ ?_ <;>
        simp [Phase.completeEstablish, Turn.step, Action.effect, Session.absorb, Session.received, hp,
          hr, Session.lend, Session.restore, Session.Step.notes]
  | _ =>
    refine act (by simp [Action.asks, Session.asks, hp]) ?_ ?_ ?_ ?_ <;>
      simp [Phase.completeEstablish, Action.effect, Session.absorb, Session.received, hp,
        Session.Step.notes, Session.stay]

theorem handshaked_leads {host : Host σ} (h : host.Sound) (t : Turn σ) (response : UpgradeResponse) :
    t.Leads (t.perform host (.complete (.handshaked (.ok response)))) := by
  have act {t' : Turn σ} := @Turn.Leads.act σ t t' (.complete (.handshaked (.ok response)))
  simp only [Turn.perform, Turn.carryOut, Turn.complete, Turn.settle, Turn.handshaked, Turn.note,
    Turn.update]
  cases hp : t.session.phase with
  | establishing =>
    cases hr : t.session.role with
    | client =>
      have := consult_leads h t
        { t with
          session := t.session.asking t.now (.handshaked (.ok response))
          record := t.record ++ [.began t.now t.session (.complete (.handshaked (.ok response)))] }
        (.handshaked (.ok response)) (.handshake response) (by simp [Session.asks, hp, hr]) rfl rfl
        rfl rfl
      simpa [Phase.completeEstablish, Session.keepalive_eq, Session.asking, Session.received,
        Session.resume, hr, hp, Turn.step] using this
    | server =>
      refine act (by simp [Action.asks, Session.asks, hr]) ?_ ?_ ?_ ?_ <;>
        simp [Phase.completeEstablish, Session.keepalive_eq, Turn.step, Action.effect,
          Session.absorb, Session.received, hp, hr, Session.lend, Session.restore,
          Session.Step.notes]
  | _ =>
    refine act (by simp [Action.asks, Session.asks, hp]) ?_ ?_ ?_ ?_ <;>
      simp [Phase.completeEstablish, Action.effect, Session.absorb, Session.received, hp,
        Session.Step.notes, Session.stay]

theorem read_leads {host : Host σ} (h : host.Sound) (t : Turn σ) (frame : Frame) :
    t.Leads (t.perform host (.complete (.read (.ok frame)))) := by
  simp only [Turn.perform, Turn.carryOut, Turn.complete, Turn.settle, Turn.readDone, Turn.note,
    Turn.update]
  change t.Leads (if t.session.isClosed = true then _ else _)
  split
  · rename_i hc
    refine .act (a := .complete (.read (.ok frame))) (by simpa [Action.asks, Session.asks] using hc)
      ?_ ?_ ?_ ?_ <;>
      simp [Action.effect, Session.absorb, Session.received, Session.Step.notes, Session.stay]
  · rename_i hc
    exact consult_leads h t
      { t with
        session := t.session.asking t.now (.read (.ok frame))
        record := t.record ++ [.began t.now t.session (.complete (.read (.ok frame)))] }
      (.read (.ok frame)) (.message frame.data) (by simpa [Session.asks] using hc) rfl rfl rfl rfl

theorem control_leads {host : Host σ} (h : host.Sound) (t : Turn σ) (kind : ControlKind)
    (payload : Bytes) : t.Leads (t.perform host (.complete (.control kind payload))) := by
  simp only [Turn.perform, Turn.carryOut, Turn.complete, Turn.settle, Turn.controlReceived]
  have hb : t.Leads (t.note (.began t.now t.session (.complete (.control kind payload)))) := by
    refine .act (a := .complete (.control kind payload)) rfl ?_ ?_ ?_ ?_ <;>
      simp [Turn.note, Action.effect, Session.absorb, Session.received, Session.Step.notes,
        Session.stay]
  change t.Leads (if t.session.isClosed = true then _ else _)
  split
  · exact hb
  · rename_i hc
    refine hb.trans (.trans (h.call_leads _ _ (.inr ?_)) (.single rfl rfl ?_ fun k => .flush _ k))
    · intro hp
      exact hc (by rw [Session.isClosed, show t.session.phase = .closed from hp, Phase.isClosed])
    · exact congrArg _ (notes_events _).symm

theorem complete_leads {host : Host σ} (h : host.Sound) (t : Turn σ) (c : Completion) :
    t.Leads (t.perform host (.complete c)) := by
  have act {t' : Turn σ} := @Turn.Leads.act σ t t' (.complete c)
  rcases c with (e | _) | (e | response) | (e | frame) | (e | n) | (e | _) | (e | _) | (e | _) |
    ⟨kind, payload⟩
  case accepted.ok => exact accepted_leads h t
  case handshaked.ok => exact handshaked_leads h t response
  case read.ok => exact read_leads h t frame
  case control => exact control_leads h t kind payload
  case closed.ok =>
    refine act rfl rfl rfl ?_ ?_ <;>
      simp [Turn.perform, Turn.carryOut, Turn.complete, Turn.settle, Turn.closeSent, Turn.note,
        Turn.update, Action.effect, Session.absorb, Session.Step.notes, Session.stay]
  all_goals
    refine act rfl ?_ ?_ ?_ ?_ <;>
      simp [Turn.perform, Turn.carryOut, Turn.complete, Turn.settle, Turn.accepted, Turn.handshaked,
        Turn.readDone, Turn.writeDone, Turn.controlSent, Turn.closeSent, Turn.note, Turn.step,
        Turn.update, Action.effect, Session.absorb, Session.received, Session.Step.notes]

theorem Host.Sound.perform_leads {host : Host σ} (h : host.Sound) (t : Turn σ) (a : Action) :
    t.Leads (t.perform host a) := by
  have act {t' : Turn σ} := @Turn.Leads.act σ t t' a
  cases a with
  | complete c => exact complete_leads h t c
  | fireTimer instant? => exact fire_leads h t instant?
  | connected =>
    have hb : t.Leads (t.note (.began t.now t.session .connected)) := by
      refine act rfl ?_ ?_ ?_ ?_ <;> simp [Turn.note, Action.effect, Session.stay, Session.Step.notes]
    simp only [Turn.perform, Turn.carryOut, Turn.connected]
    split
    · exact hb.trans (h.call_leads .connect _ (.inl rfl))
    · exact hb
  | finish =>
    simp only [Turn.perform, Turn.carryOut, Turn.finish]
    split
    · rename_i hd
      refine act rfl ?_ ?_ ?_ ?_ <;> simp_all [Turn.note, Action.effect, Session.stay, Session.Step.notes]
      rw [← hd]
    · refine .trans (act rfl ?_ ?_ ?_ ?_) (h.call_leads .finish _ (.inl rfl)) <;>
        simp [Turn.note, Turn.update, Action.effect, Session.stay, Session.Step.notes]
  | apply c =>
    cases c
    case run body =>
      refine .trans (act rfl ?_ ?_ ?_ ?_) (h.run_leads body _) <;>
        simp [Turn.note, Session.Step.notes, Action.effect, Command.effect, Session.stay]
    all_goals
      refine act rfl ?_ ?_ ?_ ?_ <;>
        simp [Turn.perform, Turn.carryOut, Turn.applyCommand, Turn.note, Turn.step, Action.effect,
          Command.effect, Session.Step.notes]
  | _ =>
    refine act rfl ?_ ?_ ?_ ?_ <;>
      simp [Turn.perform, Turn.carryOut, Turn.note, Turn.step, Turn.update, Turn.emit, Action.effect,
        Session.Step.notes, Session.stay]

theorem Host.Sound.performAll_leads {host : Host σ} (h : host.Sound) (actions : List Action)
    (t : Turn σ) : t.Leads (t.performAll host actions) := by
  induction actions generalizing t with
  | nil => exact .refl t
  | cons a actions ih => exact (h.perform_leads t a).trans (ih _)

/-- Beyond the last level nothing happens; on any other, the level below carries it out. -/
theorem Handler.host_sound (h : Handler σ) (depth : Nat) : (h.host depth).Sound := by
  induction depth with
  | zero => exact ⟨fun _ t _ => .refl t, fun _ t => .refl t⟩
  | succ depth ih =>
    -- The actions that answer a hook call hooks in turn, of the host one level down.
    refine ⟨fun hook t hh => ?_, fun body t => ih.performAll_leads body t⟩
    have entered : t.Leads (Turn.emit (.entered hook)
        { t.note (.called t.session hook) with shared := (h.react hook t.session t.shared).1 }) := by
      refine .single rfl (by simp [Turn.emit, Turn.note]) (by rfl) fun k => .enter hook _ k hh
    exact entered.trans (ih.performAll_leads _ _)

end Parley

import Parley.Chat.Client
import Parley.Proofs.LifeCycle
import Parley.Proofs.Offering
import Parley.Settings.Client
import Parley.Settings.Server

namespace Parley

variable {σ : Type}

/-- The upgrade request of a client. -/
def ClientConfig.request (c : ClientConfig) : UpgradeRequest := ⟨c.address, c.target, c.headers⟩

/-- A handler that asks for the upgrade when the stream is up, as one does by default. -/
def Handler.AsksAtOnce (h : Handler σ) : Prop :=
  ∀ s shared, (h.react .connect s shared).2 = Hook.connect.standard s

theorem Handler.chatClient_asks (nickname : String) :
    (chatClient nickname : Handler σ).AsksAtOnce := fun _ _ => rfl

theorem Operation.opens_cases {op : Operation} {role : Role} (h : op.opens role = true) :
    op.isFrame = false ∧ (∀ reason, op ≠ .close reason) ∧ op ≠ .forceClose := by
  cases role <;> cases op <;> simp_all [opens, isFrame]

/-- The upgrade is begun once. -/
theorem Stages.opens_once {role : Role} {r : List Note}
    {opening frames closing dropping : List Operation}
    (h : Stages role r opening frames closing dropping) {op op' : Operation}
    (hop : op.opens role = true) (hop' : op'.opens role = true) (hm : op ∈ operations r)
    (hm' : op' ∈ operations r) : op = op' := by
  have first {op : Operation} (hop : op.opens role = true) (hm : op ∈ operations r) :
      op ∈ opening := by
    obtain ⟨unframed, unclosed, undropped⟩ := Operation.opens_cases hop
    rw [h.all, List.mem_append, List.mem_append, List.mem_append] at hm
    rcases hm with ((hm | hm) | hm) | hm
    · exact hm
    · exact absurd (h.framed op hm) (by simp [unframed])
    · obtain ⟨reason, rfl⟩ := h.closes op hm
      exact absurd rfl (unclosed reason)
    · rcases h.drops with none | last
      · simp [none] at hm
      · exact absurd (by simpa [last] using hm) undropped
  have one := first hop hm
  have other := first hop' hm'
  match opening, h.one_opening with
  | [_], _ => exact (List.mem_singleton.mp one).trans (List.mem_singleton.mp other).symm

theorem Handler.course_opens_once (h : Handler σ) (depth : Nat) {s₀ : Session} (h₀ : s₀.Fresh)
    {shared : σ} {ms : List (Moment σ)} {op op' : Operation} (hop : op.opens s₀.role = true)
    (hop' : op'.opens s₀.role = true) (hm : op ∈ operations (h.course depth s₀ shared ms).record)
    (hm' : op' ∈ operations (h.course depth s₀ shared ms).record) : op = op' := by
  have path := h.course_path depth s₀ shared ms
  obtain ⟨opening, frames, closing, stages, -⟩ := (path.living (.fresh h₀)).stages
  have role : (h.course depth s₀ shared ms).session.role = s₀.role := path.forward.1
  rw [← role] at hop hop'
  exact stages.opens_once hop hop' hm hm'

theorem Handler.AsksAtOnce.called {h : Handler σ} (asks : h.AsksAtOnce) (depth : Nat)
    {id : SessionId} {c : ClientConfig} {reachable : Bool} {t : Turn σ}
    (hs : t.session = { Session.client id c with reachable }) :
    ∃ r, ((h.host (depth + 1)).call .connect t).record =
      r ++ [.did (.issued (.handshake c.request))] := by
  have acts : (h.react .connect t.session t.shared).2 = [.handshake c.target] := by
    rw [asks, hs]
    rfl
  have entered : (h.host (depth + 1)).call .connect t =
      Turn.performAll (h.host depth) (h.react .connect t.session t.shared).2
        (Turn.emit (.entered .connect) { t.note (.called t.session .connect) with
          shared := (h.react .connect t.session t.shared).1 }) := rfl
  obtain ⟨now, session, shared, draft, events, record⟩ := t
  subst hs
  rw [entered, acts]
  exact ⟨_, rfl⟩

/-- A session whose stream is up asks for the upgrade once, by the settings of its client. -/
theorem Handler.AsksAtOnce.request {h : Handler σ} (asks : h.AsksAtOnce) (depth : Nat)
    (id : SessionId) (c : ClientConfig) (shared : σ) {m : Moment σ} (hm : m.action = .connected)
    (ms : List (Moment σ)) (r : UpgradeRequest) :
    .handshake r ∈ operations (h.course (depth + 1) (.client id c) shared (m :: ms)).record ↔
      r = c.request := by
  have made : .handshake c.request ∈
      operations (h.course (depth + 1) (.client id c) shared (m :: ms)).record := by
    obtain ⟨l, hl, -⟩ := (h.host_sound (depth + 1)).follow_path ms
      (Turn.meet (h.host (depth + 1)) { now := 0, session := .client id c, shared } m) []
    have whole : (h.course (depth + 1) (.client id c) shared (m :: ms)).record = _ := hl
    have first : ∃ r, (Turn.meet (h.host (depth + 1))
        { now := 0, session := .client id c, shared } m).record =
          r ++ [.did (.issued (.handshake c.request))] := by
      unfold Turn.meet
      rw [hm]
      exact asks.called depth rfl
    obtain ⟨r', first⟩ := first
    rw [whole, first]
    exact mem_operations.mpr (by simp)
  refine ⟨fun hr => ?_, fun same => same ▸ made⟩
  exact Operation.handshake.inj (h.course_opens_once (depth + 1) (.client id c) rfl rfl hr made)

namespace Settings

open Http

/-- Settings that were made for each other: for one mode, with path and subprotocol either left
alone on both sides or set alike. -/
structure Agree (s : ServerSettings) (c : ClientSettings) : Prop where
  mode : s.mode = c.mode
  path : (s.path = ({} : ServerSettings).path ∧ c.path = ({} : ClientSettings).path) ∨
    (s.path = c.path ∧ IsUrlPath c.path)
  protocol : (s.protocol = ({} : ServerSettings).protocol ∧
      c.protocol = ({} : ClientSettings).protocol) ∨
    (s.protocol = c.protocol ∧ IsToken c.protocol)

/-- It is left to the echo mode what is asked for. -/
def ClientSettings.Strays (c : ClientSettings) : Prop :=
  c.mode = .echo ∧ c.path = ({} : ClientSettings).path

theorem ClientSettings.config_request (c : ClientSettings) :
    c.config.request = ⟨c.serverAddress, c.target, offer c.offeredProtocol⟩ := by
  unfold ClientSettings.config
  cases c.offeredProtocol <;> by_cases h : c.connectTimeout = 0 <;>
    simp [h, ClientConfig.request, ClientConfig.offer, ClientConfig.addHeader, Http.offer]

namespace Agree

variable {s : ServerSettings} {c : ClientSettings}

/-- What is required is what is offered. -/
theorem protocols (h : Agree s c) :
    s.requiredProtocol = c.offeredProtocol ∧ ∀ p ∈ c.offeredProtocol, IsToken p := by
  have chat : IsToken "chat" := by decide +kernel
  unfold ServerSettings.requiredProtocol ClientSettings.offeredProtocol
  rcases h.protocol with ⟨hs, hc⟩ | ⟨same, token⟩
  · rw [hs, hc, h.mode]
    cases c.mode <;> simp [chat]
  · simp [same, token.1, token]

/-- What is asked for is a path, and it is the one that is accepted, unless both are left to the
echo mode. -/
theorem targets (h : Agree s c) :
    IsUrlPath c.target ∧ s.path.isEmpty = false ∧
      (c.Strays → s.path = "/ws" ∧ c.target = "/echo") ∧ (¬c.Strays → s.path = c.target) := by
  have echo : IsUrlPath "/echo" := by decide +kernel
  have ws : IsUrlPath "/ws" := by decide +kernel
  unfold ClientSettings.target ClientSettings.Strays
  rcases h.path with ⟨hs, hc⟩ | ⟨same, path⟩
  · rw [hs, hc]
    cases c.mode <;> simp [echo, ws]
  · have filled : c.path ≠ "" := by
      intro empty
      have first := path.1
      simp [empty] at first
    simp [same, filled, path]

/-- What a server with such settings does about the request, if there is one for the address. -/
theorem answers {Request Response Name Value : Type} {http : Http Request Response Name Value}
    {deliver : Request → Request} (h : Agree s c) (lawful : http.Lawful)
    (carries : http.Carries deliver c.serverAddress) {base : Request}
    (hb : http.request s!"ws://{c.serverAddress}{c.target}" = .ok base) :
    ∃ request, http.handshake c.config.request = .ok request ∧ ∀ response,
      (c.Strays → http.accept s.config.accept (deliver request) response =
        .error ⟨404, "unknown path"⟩) ∧
      (¬c.Strays → ∃ answer,
        http.accept s.config.accept (deliver request) response = .ok answer) := by
  obtain ⟨protocol, tokens⟩ := h.protocols
  obtain ⟨path, guarded, astray, settled⟩ := h.targets
  obtain ⟨request, made, unmoved, offered⟩ := lawful.handshake_offer tokens hb
  have arrived : http.path (deliver request) = c.target := by
    rw [carries.path, unmoved]
    exact carries.target _ _ path hb
  have policy : s.config.accept.path = some s.path ∧
      s.config.accept.protocol = c.offeredProtocol := by
    simp [ServerSettings.config, ServerSettings.acceptPolicy, guarded, protocol]
  refine ⟨request, by rw [c.config_request]; exact made, fun response => ⟨?_, ?_⟩⟩
  · intro strays
    obtain ⟨ws, echo⟩ := astray strays
    refine accept_elsewhere policy.1 ?_ response
    rw [arrived, ws, echo]
    decide
  · intro stays
    refine accept_fitting (fun p hp => ?_) (fun p hp => ?_) response
    · obtain rfl : s.path = p := Option.some.inj (policy.1.symm.trans hp)
      rw [arrived]
      exact settled stays
    · rw [policy.2] at hp
      obtain ⟨v, hv, text⟩ := offered p hp
      refine offered_of_mem (tokens p hp) text ?_
      rw [carries.values]
      exact hv

end Agree

/-- A client and a server whose settings were made for each other get along: the upgrade is asked
for once, the request is made wherever the address can be asked for, and it is let in unless what is
asked for is left to the echo mode on both sides. -/
theorem agreed_admitted {Request Response Name Value : Type}
    {http : Http Request Response Name Value} {deliver : Request → Request}
    (lawful : http.Lawful) {s : ServerSettings} {c : ClientSettings}
    (carries : http.Carries deliver c.serverAddress) (h : Agree s c)
    {user : Handler σ} (asks : user.AsksAtOnce) (depth : Nat) (id : SessionId) (shared : σ)
    {m : Moment σ} (hm : m.action = .connected) (ms : List (Moment σ)) :
    ∃ upgrade : UpgradeRequest,
      (∀ r, .handshake r ∈ operations
        (user.course (depth + 1) (.client id c.config) shared (m :: ms)).record ↔ r = upgrade) ∧
      ∀ base, http.request s!"ws://{upgrade.host}{upgrade.target}" = .ok base →
        ∃ request, http.handshake upgrade = .ok request ∧ ∀ response,
          (c.Strays → http.accept s.config.accept (deliver request) response =
            .error ⟨404, "unknown path"⟩) ∧
          (¬c.Strays → ∃ answer,
            http.accept s.config.accept (deliver request) response = .ok answer) := by
  refine ⟨c.config.request, asks.request depth id c.config shared hm ms, fun base hb => ?_⟩
  rw [c.config_request] at hb
  exact h.answers lawful carries hb

/-- A server with a chat room at a path of its own. -/
def lounge : ServerSettings := { mode := .chat, path := "/lounge", protocol := "talk" }

/-- A client for it. -/
def guest : ClientSettings :=
  { mode := .chat, path := "/lounge", protocol := "talk", serverAddress := "[::1]:8080" }

theorem guest_admitted :
    verbatim.Lawful ∧ verbatim.Carries id guest.serverAddress ∧ Agree lounge guest ∧
      (Handler.chatClient "Ann" : Handler Unit).AsksAtOnce ∧
      ∃ upgrade request answer,
        .handshake upgrade ∈ operations ((Handler.chatClient "Ann").course 2
          (.client 0 guest.config) () [.plain .connected]).record ∧
        verbatim.handshake upgrade = .ok request ∧
        verbatim.accept lounge.config.accept request [] = .ok answer := by
  have carries : verbatim.Carries id guest.serverAddress := verbatim_carries (by decide +kernel)
  have agree : Agree lounge guest :=
    ⟨rfl, .inr ⟨rfl, by decide +kernel⟩, .inr ⟨rfl, by decide +kernel⟩⟩
  have asks : (Handler.chatClient "Ann" : Handler Unit).AsksAtOnce := Handler.chatClient_asks "Ann"
  obtain ⟨upgrade, requested, admitted⟩ := agreed_admitted verbatim_lawful carries agree asks 1 0 ()
    (m := .plain .connected) rfl []
  obtain ⟨request, made, answered⟩ := admitted _ rfl
  have stays : ¬guest.Strays := fun strays => nomatch strays.1
  obtain ⟨answer, taken⟩ := (answered []).2 stays
  exact ⟨verbatim_lawful, carries, agree, asks, upgrade, request, answer,
    (requested upgrade).mpr rfl, made, taken⟩

/-- Left alone, a client in the echo mode asks for a path that no server accepts that is left alone
as well. -/
theorem untouched_refused :
    verbatim.Lawful ∧ verbatim.Carries id ({} : ClientSettings).serverAddress ∧ Agree {} {} ∧
      ∃ request, verbatim.handshake ({} : ClientSettings).config.request = .ok request ∧
        verbatim.accept ({} : ServerSettings).config.accept request [] =
          .error ⟨404, "unknown path"⟩ := by
  have carries : verbatim.Carries id ({} : ClientSettings).serverAddress :=
    verbatim_carries (by decide +kernel)
  have agree : Agree {} {} := ⟨rfl, .inl ⟨rfl, rfl⟩, .inl ⟨rfl, rfl⟩⟩
  obtain ⟨request, made, answered⟩ := agree.answers verbatim_lawful carries rfl
  exact ⟨verbatim_lawful, carries, agree, request, made, (answered []).1 ⟨rfl, rfl⟩⟩

end Settings

end Parley

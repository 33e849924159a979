import Parley.Config
import Parley.Session.Action
import Parley.Settings.Section
import Parley.Text.Quoted

namespace Parley.Settings

/-- The version that the server names itself with. -/
def version : String := "0.2.0"

structure ServerSettings where
  listenAddress : String := "127.0.0.1:8080"
  /-- Only requests for this path are accepted, unless it is empty. -/
  path : String := "/ws"
  /-- The subprotocol that is required; an empty one is left to the mode. -/
  protocol : String := ""
  idleSeconds : Nat := 10
  probeSeconds : Nat := 10
  /-- The type of outgoing frames: `auto`, `text` or `binary`. -/
  frame : String := "auto"
  mode : Mode := .echo
  /-- How many messages a chat room keeps; no limit is written 0. -/
  historyLimit : Nat := 100
  logLevel : String := "info"
  deriving DecidableEq, Repr

namespace ServerSettings

def parse (text : String) : Option ServerSettings := do
  let document ← Toml.parse text
  let d : ServerSettings := {}
  let network ← Section.find document "network"
  let session ← Section.find document "session"
  let server ← Section.find document "server"
  let chat ← Section.find document "chat"
  let logging ← Section.find document "logging"
  some
    { listenAddress := ← network.read "listen_address" 0 d.listenAddress asString
      path := ← network.read "path" 1 d.path asString
      protocol := ← network.read "protocol" 2 d.protocol asString
      idleSeconds := ← session.read "idle_timeout_secs" 0 d.idleSeconds asNat
      probeSeconds := ← session.read "probe_timeout_secs" 1 d.probeSeconds asNat
      frame := ← session.read "frame" 2 d.frame asString
      mode := ← server.read "mode" 0 d.mode Mode.ofValue?
      historyLimit := ← chat.read "history_limit" 0 d.historyLimit asNat
      logLevel := ← logging.read "level" 0 d.logLevel asString }

def load (file : Option Bytes) : Loaded ServerSettings := Settings.load parse {} file

def render (s : ServerSettings) : String :=
  Settings.render
    [("network", [("listen_address", .text s.listenAddress), ("path", .text s.path),
        ("protocol", .text s.protocol)]),
      ("session", [("idle_timeout_secs", .count s.idleSeconds),
        ("probe_timeout_secs", .count s.probeSeconds), ("frame", .text s.frame)]),
      ("server", [("mode", .text s.mode.name)]),
      ("chat", [("history_limit", .count s.historyLimit)]),
      ("logging", [("level", .text s.logLevel)])]

/-- A window in milliseconds; one of no length gives way to the default. -/
def window (seconds default : Nat) : Nat :=
  if seconds = 0 then default else seconds * 1000

/-- The type of outgoing frames, whose name may be written in any case; `none` for a name that is
not known. -/
def frameMode? (s : ServerSettings) : Option FrameMode :=
  match s.frame.toLower with
  | "text" => some (.fixed .text)
  | "binary" => some (.fixed .binary)
  | "auto" => some .auto
  | _ => none

/-- A frame type that is not known is reported. -/
def warnings (s : ServerSettings) : List Warning :=
  if s.frameMode?.isSome then [] else [.unknownFrameType (Text.quoted s.frame.toLower)]

def sessionConfig (s : ServerSettings) : SessionConfig :=
  let d : SessionConfig := {}
  { idle := window s.idleSeconds d.idle
    probe := window s.probeSeconds d.probe
    frameMode := s.frameMode?.getD .auto }

/-- The subprotocol that is required: the one that is set, or the one of the mode. -/
def requiredProtocol (s : ServerSettings) : Option String :=
  if s.protocol ≠ "" then some s.protocol
  else
    match s.mode with
    | .chat => some "chat"
    | .echo => none

def acceptPolicy (s : ServerSettings) : AcceptPolicy :=
  { path := if s.path.isEmpty then none else some s.path
    protocol := s.requiredProtocol
    headers := [("Server", s!"tern/{version}")] }

def config (s : ServerSettings) : ServerConfig := ⟨s.sessionConfig, s.acceptPolicy⟩

end ServerSettings

end Parley.Settings

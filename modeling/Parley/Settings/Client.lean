import Parley.Config
import Parley.Settings.Section

namespace Parley.Settings

structure ClientSettings where
  serverAddress : String := "127.0.0.1:8080"
  /-- What is asked for; an empty path is left to the mode. -/
  path : String := ""
  /-- The subprotocol that is offered; an empty one is left to the mode. -/
  protocol : String := ""
  connectTimeout : Nat := 5000
  keepalive : Bool := false
  mode : Mode := .echo
  nickname : String := ""
  greeting : String := "hello!"
  logLevel : String := "warn"
  deriving DecidableEq, Repr

namespace ClientSettings

def parse (text : String) : Option ClientSettings := do
  let document ← Toml.parse text
  let d : ClientSettings := {}
  let network ← Section.find document "network"
  let client ← Section.find document "client"
  let logging ← Section.find document "logging"
  some
    { serverAddress := ← network.read "server_address" 0 d.serverAddress asString
      path := ← network.read "path" 1 d.path asString
      protocol := ← network.read "protocol" 2 d.protocol asString
      connectTimeout := ← network.read "connect_timeout_ms" 3 d.connectTimeout asNat
      keepalive := ← network.read "keepalive" 4 d.keepalive asBool
      mode := ← client.read "mode" 0 d.mode Mode.ofValue?
      nickname := ← client.read "nickname" 1 d.nickname asString
      greeting := ← client.read "greeting" 2 d.greeting asString
      logLevel := ← logging.read "level" 0 d.logLevel asString }

def load (file : Option Bytes) : Loaded ClientSettings := Settings.load parse {} file

def render (s : ClientSettings) : String :=
  Settings.render
    [("network", [("server_address", .text s.serverAddress), ("path", .text s.path),
        ("protocol", .text s.protocol), ("connect_timeout_ms", .count s.connectTimeout),
        ("keepalive", .flag s.keepalive)]),
      ("client", [("mode", .text s.mode.name), ("nickname", .text s.nickname),
        ("greeting", .text s.greeting)]),
      ("logging", [("level", .text s.logLevel)])]

/-- What is asked for: the path that is set, or the one of the mode. -/
def target (s : ClientSettings) : String :=
  if s.path ≠ "" then s.path
  else
    match s.mode with
    | .echo => "/echo"
    | .chat => "/ws"

/-- The subprotocol that is offered: the one that is set, or the one of the mode. -/
def offeredProtocol (s : ClientSettings) : Option String :=
  if s.protocol ≠ "" then some s.protocol
  else
    match s.mode with
    | .chat => some "chat"
    | .echo => none

/-- A time limit of no length gives way to the default. -/
def config (s : ClientSettings) : ClientConfig :=
  let c : ClientConfig :=
    { address := s.serverAddress, target := s.target, keepalive := s.keepalive }
  let c := if s.connectTimeout = 0 then c else { c with connectTimeout := s.connectTimeout }
  s.offeredProtocol.elim c c.offer

end ClientSettings

end Parley.Settings

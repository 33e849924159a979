import Parley.Console.Program
import Parley.Service

namespace Parley.Console.Server

open Settings

def configFile : String := "tern-server.toml"

def usage : Usage where
  program := "tern-server"
  about := "tern WebSocket echo and chat server"
  switches :=
    [configSwitch configFile,
      { name := "listen", letter := some 'l', operand := .text "LISTEN",
        about := "Address to listen on, e.g. 0.0.0.0:8080" },
      modeSwitch fun
        | .echo => "Write every message back to its sender"
        | .chat => "Multi-user chat room speaking the envelope protocol",
      generateSwitch]

/-- The settings of the file that is named, as far as the command line leaves them. -/
def settings (files : Files) (options : Given) : ServerSettings :=
  let s := (ServerSettings.load (files ((options.lookup "config").getD configFile))).settings
  { s with
    listenAddress := (options.lookup "listen").getD s.listenAddress
    mode := ((options.lookup "mode").bind Mode.ofName?).getD s.mode }

def plan (files : Files) (arguments : List String) : Plan ServerSettings :=
  usage.plan ({} : ServerSettings).render (settings files) arguments

/-- A server that can listen serves until it is told to stop. -/
def run (s : ServerSettings) : Exit :=
  match s.listenAddress? with
  | .ok _ => .done ""
  | .error e => .failed "" e

def execute (files : Files) (arguments : List String) : Exit :=
  match plan files arguments with
  | .finish exit => exit
  | .run s => run s

end Parley.Console.Server

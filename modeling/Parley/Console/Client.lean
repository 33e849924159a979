import Parley.Console.Program
import Parley.Envelope.Record
import Parley.Settings.Client
import Parley.SocketAddress
import Parley.Text.Blank

namespace Parley.Console.Client

open Settings

def configFile : String := "tern-client.toml"

def usage : Usage where
  program := "tern-client"
  about := "tern WebSocket echo and chat client"
  switches :=
    [configSwitch configFile,
      { name := "server", letter := some 's', operand := .text "SERVER",
        about := "Server address (overrides config). Example: 127.0.0.1:8080" },
      modeSwitch fun
        | .echo => "Send one greeting, print the reply, close"
        | .chat => "Interactive chat room session on the console",
      { name := "nickname", letter := some 'n', operand := .text "NICKNAME",
        about := "Chat nickname (overrides config)" },
      generateSwitch]

/-- The settings of the file that is named, as far as the command line leaves them. -/
def settings (files : Files) (options : Given) : ClientSettings :=
  let s := (ClientSettings.load (files ((options.lookup "config").getD configFile))).settings
  { s with
    serverAddress := (options.lookup "server").getD s.serverAddress
    mode := ((options.lookup "mode").bind Mode.ofName?).getD s.mode
    nickname := (options.lookup "nickname").getD s.nickname }

def plan (files : Files) (arguments : List String) : Plan ClientSettings :=
  usage.plan ({} : ClientSettings).render (settings files) arguments

/-- What is asked before a run can go on: a chat needs a nickname. -/
def question? (s : ClientSettings) : Option String :=
  if s.mode = .chat && Text.trim s.nickname = "" then some "What is your name? " else none

def nickname (s : ClientSettings) (answer : String) : String :=
  match Text.trim s.nickname with
  | "" => Text.trim answer
  | name => name

/-- Why a nickname cannot be used, if it cannot: no message could carry it. -/
def nicknameFault? (name : String) : Option String :=
  match Envelope.Message.validate ⟨"-", name⟩ with
  | .error e => some e.message
  | .ok () => none

/-- How a run ends, which gets as far as its dialling. -/
def run (s : ClientSettings) (answer : String) : Exit :=
  let unusable := match s.mode with
    | .echo => none
    | .chat => nicknameFault? (nickname s answer)
  .failed "" (unusable.getD s.config.connectFault.message)

def execute (files : Files) (arguments typed : List String) : Exit :=
  match plan files arguments with
  | .finish exit => exit
  | .run s => { run s (typed.head?.getD "") with output := (question? s).getD "" }

end Parley.Console.Client

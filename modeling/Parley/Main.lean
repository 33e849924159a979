import Parley.Console.Client
import Parley.Console.Server

namespace Parley.Console

/-- The settings file that the arguments of a program name, as the only file there is. -/
def readFiles (u : Usage) (default : String) (arguments : List String) : IO Files := do
  match u.read arguments with
  | .help _ | .misused => return fun _ => none
  | .given options =>
    let name := (options.lookup "config").getD default
    try
      let contents ← IO.FS.readBinFile name
      return fun other => if other = name then some contents.toList else none
    catch _ =>
      return fun _ => none

def report (exit : Exit) : IO UInt32 := do
  IO.print exit.output
  match exit.complaint with
  | some complaint => IO.eprintln complaint
  | none => pure ()
  return exit.code.toUInt32

def ask (question : String) : IO String := do
  let output ← IO.getStdout
  output.putStr question
  output.flush
  (← IO.getStdin).getLine

def runServer (arguments : List String) : IO UInt32 := do
  let files ← readFiles Server.usage Server.configFile arguments
  report (Server.execute files arguments)

def runClient (arguments : List String) : IO UInt32 := do
  let files ← readFiles Client.usage Client.configFile arguments
  match Client.plan files arguments with
  | .finish exit => report exit
  | .run settings =>
    let answer ← match Client.question? settings with
      | some question => ask question
      | none => pure ""
    report (Client.run settings answer)

end Parley.Console

def main (arguments : List String) : IO UInt32 :=
  match arguments with
  | "server" :: arguments => Parley.Console.runServer arguments
  | "client" :: arguments => Parley.Console.runClient arguments
  | _ =>
    Parley.Console.report
      { code := 2, complaint := some "Usage: parley (server | client) [OPTIONS]" }

import Parley.Bytes
import Parley.Console.Help
import Parley.Settings.Section

namespace Parley.Console

/-- How a program ends: its exit code, what it printed, and what it complained of. -/
structure Exit where
  code : Nat
  output : String := ""
  complaint : Option String := none
  deriving DecidableEq, Repr

namespace Exit

def done (output : String) : Exit := { code := 0, output }

def failed (output complaint : String) : Exit :=
  { code := 1, output, complaint := some complaint }

end Exit

/-- What a program is to do: end at once, or run by its settings. -/
inductive Plan (α : Type)
  | finish (exit : Exit)
  | run (settings : α)

abbrev Files := String → Option Bytes

def configSwitch (default : String) : Switch where
  name := "config"
  letter := some 'c'
  operand := .file "CONFIG" default
  about := "Path to configuration TOML file"

/-- The option that sets the mode; says what each mode stands for. -/
def modeSwitch (meaning : Settings.Mode → String) : Switch where
  name := "mode"
  letter := some 'm'
  operand := .choice "MODE" (Settings.Mode.all.map fun m => (m.name, meaning m))

def generateSwitch : Switch where
  name := "gen-config"
  about := "Print the default configuration to stdout and exit"

def Usage.plan {α : Type} (u : Usage) (defaults : String) (run : Given → α)
    (arguments : List String) : Plan α :=
  match u.read arguments with
  | .misused =>
    .finish { code := 2, complaint := some s!"Usage: {u.program} [OPTIONS]" }
  | .help isLong => .finish (.done (u.help isLong))
  | .given options =>
    if (options.lookup "gen-config").isSome then .finish (.done (defaults ++ "\n"))
    else .run (run options)

end Parley.Console

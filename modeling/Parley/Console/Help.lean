import Parley.Console.Options

namespace Parley.Console

namespace Switch

def spelling (s : Switch) : String :=
  let letter := s.letter.elim "    " fun c => String.ofList ['-', c, ',', ' ']
  letter ++ "--" ++ s.name ++ s.operand.label?.elim "" fun label => s!" <{label}>"

def summary (s : Switch) : String :=
  let note := match s.operand with
    | .nothing | .text _ => []
    | .file _ default => [s!"[default: {default}]"]
    | .choice _ words => ["[possible values: " ++ ", ".intercalate (words.map (·.1)) ++ "]"]
  " ".intercalate ((if s.about.isEmpty then [] else [s.about]) ++ note)

/-- The lines that are said of an option at length; an empty one parts what is said. -/
def details (s : Switch) : List String :=
  let note := match s.operand with
    | .nothing | .text _ => []
    | .file _ default => [s!"[default: {default}]"]
    | .choice _ words =>
      "Possible values:" :: words.map fun (word, meaning) => s!"- {word}: {meaning}"
  let about := if s.about.isEmpty then [] else [s.about]
  if about.isEmpty || note.isEmpty then about ++ note else about ++ "" :: note

end Switch

namespace Usage

def helpSwitch (isLong : Bool) : Switch where
  name := "help"
  letter := some 'h'
  about :=
    if isLong then "Print help (see a summary with '-h')"
    else "Print help (see more with '--help')"

def padded (width : Nat) (s : String) : String := s.pushn ' ' (width - s.length)

def help (u : Usage) (isLong : Bool) : String :=
  let switches := u.switches ++ [helpSwitch isLong]
  let width := (switches.map (·.spelling.length)).foldl max 0
  let column := "".pushn ' ' 10
  let entry (s : Switch) : String :=
    if isLong then
      s!"  {s.spelling}\n" ++ String.join (s.details.map fun line => column ++ line ++ "\n")
    else s!"  {padded width s.spelling}  {s.summary}\n"
  s!"{u.about}\n\nUsage: {u.program} [OPTIONS]\n\nOptions:\n" ++
    (if isLong then "\n" else "").intercalate (switches.map entry)

end Usage

end Parley.Console

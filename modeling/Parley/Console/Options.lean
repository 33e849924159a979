namespace Parley.Console

/-- What stands behind an option. The label is how help refers to it. -/
inductive Operand
  | nothing
  | text (label : String)
  /-- The name of a file, and the file that is meant without the option. -/
  | file (label default : String)
  /-- One of some words, each with what it stands for. -/
  | choice (label : String) (words : List (String × String))
  deriving DecidableEq, Repr

namespace Operand

def label? : Operand → Option String
  | nothing => none
  | text label | file label _ | choice label _ => some label

/-- Only a file needs a name, and only a choice is bound to its words. -/
def accepts (operand : Operand) (given : String) : Bool :=
  match operand with
  | nothing => given = ""
  | text _ => true
  | file .. => given ≠ ""
  | choice _ words => (words.lookup given).isSome

end Operand

structure Switch where
  name : String
  letter : Option Char := none
  operand : Operand := .nothing
  about : String := ""
  deriving DecidableEq, Repr

structure Usage where
  program : String
  about : String
  switches : List Switch

abbrev Given := List (String × String)

inductive Reading
  | given (options : Given)
  | help (isLong : Bool)
  | misused
  deriving DecidableEq, Repr

def Switch.give (s : Switch) (operand : String) (options : Given) : Option Given :=
  if (options.lookup s.name).isNone && s.operand.accepts operand then
    some (options ++ [(s.name, operand)])
  else none

inductive Step
  | go (options : Given)
  /-- The next argument is the operand of this option. -/
  | wants (s : Switch) (options : Given)
  | stop (reading : Reading)

def Step.ofGiven : Option Given → Step
  | some options => .go options
  | none => .stop .misused

namespace Usage

/-- Takes an option by its name; `attached` is the operand behind a sign of equality. -/
def takeName (u : Usage) (name : String) (attached : Option String) (options : Given) : Step :=
  if name = "help" then .stop (if attached.isNone then .help true else .misused)
  else
    match u.switches.find? (·.name = name), attached with
    | none, _ => .stop .misused
    | some s, some operand =>
      if s.operand = .nothing then .stop .misused else .ofGiven (s.give operand options)
    | some s, none =>
      if s.operand = .nothing then .ofGiven (s.give "" options) else .wants s options

/-- Takes options by their letters; what follows the letter of an option with an operand is its
operand. -/
def takeLetters (u : Usage) : List Char → Given → Step
  | [], options => .go options
  | c :: rest, options =>
    if c = 'h' then .stop (.help false)
    else
      match u.switches.find? (·.letter = some c) with
      | none => .stop .misused
      | some s =>
        if s.operand = .nothing then
          match s.give "" options with
          | some options => takeLetters u rest options
          | none => .stop .misused
        else
          match rest with
          | [] => .wants s options
          | '=' :: operand | operand => .ofGiven (s.give (String.ofList operand) options)

/-- Takes an argument that is not an operand. Two hyphens announce that no option follows, which
leaves nothing to be said. -/
def takeArgument (u : Usage) (argument : String) (isLast : Bool) (options : Given) : Step :=
  match argument.toList with
  | ['-', '-'] => .stop (if isLast then .given options else .misused)
  | '-' :: '-' :: cs =>
    let name := cs.takeWhile (· ≠ '=')
    let attached := match cs.drop name.length with
      | [] => none
      | _ :: operand => some (String.ofList operand)
    u.takeName (String.ofList name) attached options
  | '-' :: c :: cs => u.takeLetters (c :: cs) options
  | _ => .stop .misused

def isOperand (argument : String) : Bool :=
  match argument.toList with
  | '-' :: _ :: _ => false
  | _ => true

def readFrom (u : Usage) : List String → Given → Reading
  | [], options => .given options
  | argument :: rest, options =>
    match u.takeArgument argument rest.isEmpty options with
    | .go options => readFrom u rest options
    | .stop reading => reading
    | .wants s options =>
      match rest with
      | [] => .misused
      | operand :: rest =>
        if isOperand operand then
          match s.give operand options with
          | some options => readFrom u rest options
          | none => .misused
        else .misused

def read (u : Usage) (arguments : List String) : Reading := u.readFrom arguments []

end Usage

end Parley.Console

import Parley.Session.Turn

namespace Parley

inductive Occasion
  | connect
  | accept
  | handshake
  | message
  | ping
  | pong
  | close
  | finish
  deriving DecidableEq, Repr

def Hook.occasion : Hook → Occasion
  | .connect => .connect
  | .accept _ => .accept
  | .handshake .. => .handshake
  | .message .. => .message
  | .ping _ => .ping
  | .pong _ => .pong
  | .close _ => .close
  | .finish => .finish

namespace Script

inductive Line
  | act (action : Action)
  /-- Append the message at hand to the output. -/
  | echo
  /-- Do what is done by default on this occasion. -/
  | standard

/-- The actions that a line stands for when `hook` runs. -/
def Line.actions (session : Session) (hook : Hook) : Line → List Action
  | act action => [action]
  | echo =>
    match hook with
    | .message input _ => [.append input]
    | _ => []
  | standard => hook.standard session

end Script

/-- The lines for each occasion that is written down. -/
abbrev Script := List (Occasion × List Script.Line)

def Handler.scripted {σ : Type} (script : Script) : Handler σ where
  react hook session shared :=
    (shared, match script.lookup hook.occasion with
      | some lines => lines.flatMap (Script.Line.actions session hook)
      | none => hook.standard session)

end Parley

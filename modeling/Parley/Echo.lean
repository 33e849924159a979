import Parley.Session.Turn

namespace Parley.Handler

variable {σ : Type}

def echo : Handler σ where
  react hook session shared :=
    (shared, match hook with
      | .message input _ => [.append input]
      | _ => hook.standard session)

/-- Greets the service once and closes on the first reply. -/
def echoProbe (greeting : String) : Handler σ where
  react hook session shared :=
    (shared, match hook with
      | .handshake .. => [.append (Bytes.ofString greeting)]
      | .message input _ =>
        [.deliver (.reply (Bytes.lossyText input)), .nextRead false, .close .normal]
      | _ => hook.standard session)

end Parley.Handler

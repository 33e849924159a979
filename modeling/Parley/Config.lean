import Parley.Transport

namespace Parley

inductive FrameMode
  /-- The type of the last frame received. -/
  | auto
  | fixed (kind : FrameKind)
  deriving DecidableEq, Repr

/-- The type a session starts to send in: text until a frame says otherwise. -/
def FrameMode.initial : FrameMode → FrameKind
  | auto => .text
  | fixed kind => kind

structure SessionConfig where
  /-- How long a peer may be silent; also bounds the upgrade. -/
  idle : Nat := 10000
  /-- How long a probed peer has to answer. -/
  probe : Nat := 10000
  frameMode : FrameMode := .auto
  deriving DecidableEq, Repr

inductive ConfigError
  | idleZero
  | probeZero
  deriving DecidableEq, Repr

def ConfigError.message : ConfigError → String
  | idleZero => "idle timeout must be positive"
  | probeZero => "probe timeout must be positive"

def SessionConfig.validate (c : SessionConfig) : Except ConfigError Unit :=
  if c.idle = 0 then .error .idleZero
  else if c.probe = 0 then .error .probeZero
  else .ok ()

structure ServerConfig where
  session : SessionConfig := {}
  accept : AcceptPolicy := {}
  deriving DecidableEq, Repr

structure ClientConfig where
  /-- The address to dial, also the host named in the request. -/
  address : String := "127.0.0.1:8080"
  target : String := "/"
  headers : List HeaderField := []
  connectTimeout : Nat := 5000
  /-- Whether the client watches for a silent server too. -/
  keepalive : Bool := false
  session : SessionConfig := {}
  deriving DecidableEq, Repr

namespace ClientConfig

def addHeader (c : ClientConfig) (name value : String) : ClientConfig :=
  { c with headers := c.headers ++ [(name, value)] }

def offer (c : ClientConfig) (protocol : String) : ClientConfig :=
  c.addHeader "Sec-WebSocket-Protocol" protocol

end ClientConfig

end Parley

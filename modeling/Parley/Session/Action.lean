import Parley.Config
import Parley.Envelope.Codec

namespace Parley

abbrev SessionId := Nat

/-- A report of something that should not happen in a healthy system. -/
inductive Warning
  | sessionFailed (op : String) (error : TransportError)
  | invalidChatMessage (error : Envelope.ParseError)
  | malformedEnvelope (error : Envelope.ParseError)
  | joinNotEncodable (error : EnvelopeError)
  | historyNotEncodable (error : EnvelopeError)
  | leaveNotEncodable (error : EnvelopeError)
  | unknownFrameType (quoted : String)
  deriving DecidableEq, Repr

namespace Warning

def message : Warning → String
  | sessionFailed .. => "session failed"
  | invalidChatMessage _ => "invalid chat message"
  | malformedEnvelope _ => "malformed envelope"
  | joinNotEncodable _ => "join notice not encodable"
  | historyNotEncodable _ => "history not encodable"
  | leaveNotEncodable _ => "leave notice not encodable"
  | unknownFrameType quoted => s!"unknown frame type {quoted}; using auto"

def fields : Warning → List (String × String)
  | sessionFailed op error => [("op", op), ("error", error.message)]
  | invalidChatMessage error | malformedEnvelope error => [("error", error.message)]
  | joinNotEncodable error | historyNotEncodable error | leaveNotEncodable error =>
    [("error", error.message)]
  | unknownFrameType _ => []

end Warning

inductive Delivery
  | reply (text : String)
  | message (m : Envelope.Message)
  deriving DecidableEq, Repr

inductive Inspection
  | state
  | description
  | response
  deriving DecidableEq, Repr

/-- A mark that a list of actions leaves in the record of what happened. -/
inductive Mark
  | timer
  | command (text : String)
  deriving DecidableEq, Repr

mutual

inductive Command
  | push (data : Bytes)
  | read
  | ping (payload : Bytes)
  | close (reason : CloseReason)
  | run (body : List Action)

/-- One step of a hook, of a posted body or of a timer. -/
inductive Action
  | accept (policy : AcceptPolicy)
  | connected
  | handshake (target : String)
  | read
  | write
  | push (data : Bytes)
  /-- Queue bytes without writing them. -/
  | queue (data : Bytes)
  | clearQueue
  | ping (payload : Bytes)
  | pong (payload : Bytes)
  | close (reason : CloseReason)
  | forceClose
  | setFrameMode (mode : FrameMode)
  | launchTimer
  | launchTimerWith (body : List Action)
  | armTimer (window : Nat)
  | keepalive
  /-- Fire the watchdog as of an instant, now if none is given. -/
  | fireTimer (at? : Option Nat)
  | apply (command : Command)
  | complete (completion : Completion)
  | transportLost
  | finish
  | append (data : Bytes)
  | clearOutput
  /-- Whether the message at hand is followed by a read. -/
  | nextRead (follow : Bool)
  | post (receiver : SessionId) (command : Command)
  | warn (warning : Warning)
  | deliver (delivery : Delivery)
  | leaveMark (mark : Mark)
  | inspect (what : Inspection)

end

def Command.describe : Command → String
  | push data => s!"Push({data.length} bytes)"
  | read => "Read"
  | ping _ => "Ping"
  | close reason => s!"Close({reason.code.toNat})"
  | run _ => "Run"

/-- A moment at which a session asks its handler what to do. Where a hook has an output to fill,
`output` is what that output held on entry. -/
inductive Hook
  /-- The stream to the server is up. -/
  | connect
  | accept (output : Bytes)
  | handshake (response : UpgradeResponse) (output : Bytes)
  | message (input output : Bytes)
  | ping (payload : Bytes)
  | pong (payload : Bytes)
  | close (reason : Bytes)
  /-- The session is no longer serviced. -/
  | finish
  deriving DecidableEq, Repr

end Parley

import Parley.Config
import Parley.Duration
import Parley.Envelope.Record

namespace Parley

inductive RequestError
  | uriCharacter
  | malformed
  | authority
  | uriTooLong
  | headerName
  | headerValue
  | status
  deriving DecidableEq, Repr

def RequestError.message : RequestError → String
  | uriCharacter => "invalid uri character"
  | malformed => "invalid format"
  | authority => "invalid authority"
  | uriTooLong => "uri too long"
  | headerName => "invalid HTTP header name"
  | headerValue => "failed to parse header value"
  | status => "invalid status code"

inductive SocketError
  | closedNormally
  | alreadyClosed
  | resetWithoutClosing
  | handshakeIncomplete
  | wrongMethod
  | sendAfterClosing
  | receivedAfterClosing
  | attackAttempt
  | noPathOrQuery
  | emptyHostName
  | tooManyHeaders
  | messageTooLong (size max : Nat)
  | controlTooBig
  | offeredProtocolIgnored
  | unknownProtocol
  | unwantedProtocol
  | wrongVersion
  | request (error : RequestError)
  /-- A response that refuses the upgrade. -/
  | refused (status : Nat) (reason : String)
  | textEncoding
  | io (text : String)
  deriving DecidableEq, Repr

namespace SocketError

def message : SocketError → String
  | closedNormally => "Connection closed normally"
  | alreadyClosed => "Trying to work with closed connection"
  | resetWithoutClosing => protocol "Connection reset without closing handshake"
  | handshakeIncomplete => protocol "Handshake not finished"
  | wrongMethod => protocol "Unsupported HTTP method used - only GET is allowed"
  | sendAfterClosing => protocol "Sending after closing is not allowed"
  | receivedAfterClosing => protocol "Remote sent after having closed"
  | attackAttempt => "Attack attempt detected"
  | noPathOrQuery => "URL error: No path/query in URL"
  | emptyHostName => "URL error: URL contains empty host name"
  | tooManyHeaders => "Space limit exceeded: Too many headers"
  | messageTooLong size max => s!"Space limit exceeded: Message too long: {size} > {max}"
  | controlTooBig => protocol "Control frame too big (payload must be 125 bytes or less)"
  | offeredProtocolIgnored => protocol "SubProtocol error: Server sent no subprotocol"
  | unknownProtocol => protocol "SubProtocol error: Server sent an invalid subprotocol"
  | unwantedProtocol =>
    protocol "SubProtocol error: Server sent a subprotocol but none was requested"
  | wrongVersion => protocol "httparse error: invalid HTTP version"
  | request error => s!"HTTP format error: {error.message}"
  | refused status reason => s!"HTTP error: {status} {reason}"
  | textEncoding => "UTF-8 encoding error"
  | io text => s!"IO error: {text}"
where
  protocol (text : String) : String := "WebSocket protocol error: " ++ text

/-- A stream that has ended, in whatever way, is one closed by the peer. -/
def toTransport : SocketError → TransportError
  | closedNormally | alreadyClosed | resetWithoutClosing => .closed
  | e => .failure e.message

end SocketError

inductive EndpointError
  | transport (error : TransportError)
  | envelope (error : EnvelopeError)
  | stream (text : String)
  | socket (error : SocketError)
  | phase (error : PhaseError)
  | sessionClosed
  /-- Carries the length of the window in nanoseconds. -/
  | timeout (window : Nat)
  | config (text : String)
  deriving DecidableEq, Repr

namespace EndpointError

def ofConfig (e : ConfigError) : EndpointError :=
  .config e.message

def source : EndpointError → Option String
  | transport error => some error.message
  | envelope error => some error.message
  | stream text => some text
  | socket error => some error.message
  | phase _ | sessionClosed | timeout _ | config _ => none

def message : EndpointError → String
  | transport error => s!"transport error: {error.message}"
  | envelope error => s!"envelope error: {error.message}"
  | stream text => s!"connection error: {text}"
  | socket error => s!"websocket error: {error.message}"
  | phase error => s!"invalid transition: {error.message}"
  | sessionClosed => "session closed"
  | timeout window => s!"timeout after {Duration.text window}"
  | config text => s!"invalid configuration: {text}"

end EndpointError

end Parley

namespace Parley

inductive EnvelopeError
  /-- The record does not start with its literal. -/
  | wrongLiteral
  | literalUnterminated
  | lengthUnterminated
  | lengthNotDecimal
  | lengthTooLarge
  | nicknameUnterminated
  | notUtf8
  | payloadTruncated
  | countZero
  | lengthZero
  | payloadEmpty
  | nicknameHasColon
  | payloadTooLong
  | noMessages
  | tooManyMessages
  deriving DecidableEq, Repr

namespace EnvelopeError

/-- The three ways to refuse a record: its literal, its fields, or a forbidden value. -/
inductive Kind
  | badPrefix
  | badMessage
  | invalidArgument
  deriving DecidableEq, Repr

def kind : EnvelopeError → Kind
  | wrongLiteral | literalUnterminated => .badPrefix
  | lengthUnterminated | lengthNotDecimal | lengthTooLarge | nicknameUnterminated | notUtf8
  | payloadTruncated => .badMessage
  | countZero | lengthZero | payloadEmpty | nicknameHasColon | payloadTooLong | noMessages
  | tooManyMessages => .invalidArgument

def Kind.message : Kind → String
  | badPrefix => "bad prefix"
  | badMessage => "bad message"
  | invalidArgument => "invalid argument"

def detail : EnvelopeError → String
  | wrongLiteral => "unexpected record literal"
  | literalUnterminated => "missing ':' after record literal"
  | lengthUnterminated => "length field is not terminated by ':'"
  | lengthNotDecimal => "length field is not a decimal number"
  | lengthTooLarge => "length field overflows u32"
  | nicknameUnterminated => "nickname is not terminated by ':'"
  | notUtf8 => "text is not utf-8"
  | payloadTruncated => "payload shorter than declared length"
  | countZero => "inv count is zero"
  | lengthZero => "message length is zero"
  | payloadEmpty => "message payload is empty"
  | nicknameHasColon => "nickname contains ':'"
  | payloadTooLong => "payload longer than u32::MAX"
  | noMessages => "envelope has no messages"
  | tooManyMessages => "more than u32::MAX messages"

def message (e : EnvelopeError) : String :=
  s!"{e.kind.message}: {e.detail}"

end EnvelopeError

inductive TransportError
  /-- Cancelled because the connection was forced closed. -/
  | aborted
  | closed
  /-- Anything else: reset, protocol violation, input or output error. -/
  | failure (text : String)
  deriving DecidableEq, Repr

namespace TransportError

/-- An error that ends a session without being reported. -/
def isSilent : TransportError → Bool
  | aborted | closed => true
  | failure _ => false

def message : TransportError → String
  | aborted => "operation aborted"
  | closed => "connection closed by peer"
  | failure text => s!"transport failure: {text}"

end TransportError

inductive PhaseError
  | upgradeIssued
  | notEstablishing
  | notEstablished
  deriving DecidableEq, Repr

def PhaseError.message : PhaseError → String
  | upgradeIssued => "cannot establish: upgrade already issued"
  | notEstablishing => "cannot complete upgrade: not in Establishing state"
  | notEstablished => "cannot close: session is not established"

end Parley

import Parley.Envelope.Record

namespace Parley.Envelope

/-- Refuses a list of messages that cannot be one envelope. -/
def validate (ms : List Message) : Except EnvelopeError Header :=
  if ms.isEmpty then .error .noMessages
  else if maxLength < ms.length then .error .tooManyMessages
  else do
    ms.forM Message.validate
    .ok ⟨ms.length⟩

def encode (ms : List Message) : Except EnvelopeError Bytes := do
  let header ← validate ms
  .ok (header.encode ++ ms.flatMap Message.encode)

def writeRecords (header : Header) (ms : List Message) : StateM Bytes Unit := do
  discard header.write
  ms.forM fun m => discard m.write

/-- Writes messages as one envelope behind what a buffer holds, and counts the bytes. -/
def write (ms : List Message) : ExceptT EnvelopeError (StateM Bytes) Nat := do
  let written ← encode ms
  modify (· ++ written)
  return written.length

/-- A buffer with messages written behind what it held, and the number of bytes appended. -/
def encodeInto (ms : List Message) (buffer : Bytes) : Except EnvelopeError (Taken Bytes) :=
  let (count, written) := (write ms).run.run buffer
  count.map (⟨written, ·⟩)

structure Parsed where
  messages : List Message
  consumed : Nat
  deriving DecidableEq, Repr

/-- Why no envelope was read: the cause, where the malformed record starts, and the messages
read before it. -/
structure ParseError where
  cause : EnvelopeError
  consumed : Nat
  messages : List Message
  deriving DecidableEq, Repr

def ParseError.message (e : ParseError) : String :=
  s!"{e.cause.message} (after {e.consumed} bytes, {e.messages.length} records)"

/-- Reads `n` more messages from `rest`, which starts at offset `consumed`; `seen` holds the
messages already read, the latest first. -/
def parseMessages : (n : Nat) → (rest : Bytes) → (consumed : Nat) → (seen : List Message) →
    Except ParseError Parsed
  | 0, _, consumed, seen => .ok ⟨seen.reverse, consumed⟩
  | n + 1, rest, consumed, seen =>
    match Message.parse rest with
    | .ok m => parseMessages n (rest.drop m.used) (consumed + m.used) (m.value :: seen)
    | .error cause => .error ⟨cause, consumed, seen.reverse⟩

def parse (input : Bytes) : Except ParseError Parsed :=
  match Header.parse input with
  | .ok h => parseMessages h.value.count (input.drop h.used) h.used []
  | .error cause => .error ⟨cause, 0, []⟩

/-- A walk over envelopes that stand back to back: how far it has come, and whether it met a
malformed one. -/
structure Walk where
  input : Bytes
  offset : Nat := 0
  failed : Bool := false
  deriving DecidableEq, Repr

namespace Walk

def start (input : Bytes) : Walk := { input }

/-- The next batch of messages or the error that ends the walk; nothing at the end. The offset
moves over whole envelopes only, and an error is located in the whole input. -/
def next (w : Walk) : Option (Except ParseError (List Message)) × Walk :=
  if w.failed || w.input.length ≤ w.offset then (none, w)
  else
    match parse (w.input.drop w.offset) with
    | .ok p => (some (.ok p.messages), { w with offset := w.offset + p.consumed })
    | .error e =>
      (some (.error { e with consumed := e.consumed + w.offset }), { w with failed := true })

/-- Every step of a walk that is still to come, at most `fuel` of them. -/
def steps : (fuel : Nat) → Walk → List (Except ParseError (List Message) × Walk)
  | 0, _ => []
  | fuel + 1, w =>
    match w.next with
    | (some item, w') => (item, w') :: steps fuel w'
    | (none, _) => []

/-- The whole walk over `input`: each item with the walk as it stands behind it. Every envelope
takes up at least one byte, so the input's length bounds the walk. -/
def all (input : Bytes) : List (Except ParseError (List Message) × Walk) :=
  steps (input.length + 1) (start input)

end Walk

/-- What one buffer holds: the batches of its whole envelopes in order, the bytes they take up,
and the error that ended the walk, if one did. -/
structure Reading where
  batches : List (List Message)
  offset : Nat
  error : Option ParseError
  deriving DecidableEq, Repr

def readAll (input : Bytes) : Reading :=
  let items := Walk.all input
  { batches := items.filterMap fun (item, _) => item.toOption
    offset := (items.getLast?.map (·.2.offset)).getD 0
    error := items.findSome? fun
      | (.error e, _) => some e
      | (.ok _, _) => none }

end Parley.Envelope

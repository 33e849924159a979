import Parley.Decimal
import Parley.Error

namespace Parley.Envelope

def colon : UInt8 := 58

/-- The largest length or count that a record can declare. -/
def maxLength : Nat := UInt32.size - 1

structure Taken (α : Type) where
  value : α
  used : Nat
  deriving DecidableEq, Repr

/-- Matches a record literal and its colon at the front of `input`; gives the bytes matched. -/
def literal (word input : Bytes) : Except EnvelopeError Nat :=
  match Bytes.after? word input with
  | none => .error .wrongLiteral
  | some rest =>
    if rest.head? = some colon then .ok (word.length + 1) else .error .literalUnterminated

/-- Reads digits up to a colon at the front of `input`. Leading zeros are accepted. -/
def lengthField (input : Bytes) : Except EnvelopeError (Taken Nat) :=
  match Bytes.upTo? colon input with
  | none => .error .lengthUnterminated
  | some digits =>
    match Decimal.value? digits with
    | none => .error .lengthNotDecimal
    | some n => if n ≤ maxLength then .ok ⟨n, digits.length + 1⟩ else .error .lengthTooLarge

def textField (b : Bytes) : Except EnvelopeError String :=
  match Bytes.text? b with
  | some s => .ok s
  | none => .error .notUtf8

def put (b : Bytes) : StateM Bytes Unit := modify (· ++ b)

/-- Writes into a buffer, and counts the bytes by which it grows. -/
def counted (writing : StateM Bytes Unit) : StateM Bytes Nat := do
  let start := (← get).length
  writing
  return (← get).length - start

/-- On the wire `inv:<count>:`, where `count` messages follow. -/
structure Header where
  count : Nat
  deriving DecidableEq, Repr

namespace Header

def word : Bytes := Bytes.ofString "inv"

def encode (h : Header) : Bytes :=
  word ++ colon :: Decimal.text h.count ++ [colon]

/-- The length of the encoding, counted without encoding. -/
def size (h : Header) : Nat :=
  word.length + Decimal.width h.count + 2

def write (h : Header) : StateM Bytes Nat := counted do
  put word
  put [colon]
  put (Decimal.text h.count)
  put [colon]

def parse (input : Bytes) : Except EnvelopeError (Taken Header) := do
  let lead ← literal word input
  let count ← lengthField (input.drop lead)
  if count.value = 0 then .error .countZero else .ok ⟨⟨count.value⟩, lead + count.used⟩

end Header

/-- On the wire `message:<length>:<nickname>:<payload>`. The payload is taken by its length, so it may
hold colons. -/
structure Message where
  payload : String
  nickname : String
  deriving DecidableEq, Repr

namespace Message

def word : Bytes := Bytes.ofString "message"

/-- Refuses a message that would not survive being written and read back. -/
def validate (m : Message) : Except EnvelopeError Unit :=
  if m.payload.isEmpty then .error .payloadEmpty
  else if (Bytes.ofString m.nickname).contains colon then .error .nicknameHasColon
  else if maxLength < (Bytes.ofString m.payload).length then .error .payloadTooLong
  else .ok ()

def encode (m : Message) : Bytes :=
  let payload := Bytes.ofString m.payload
  word ++ colon :: Decimal.text payload.length ++ colon :: Bytes.ofString m.nickname ++
    colon :: payload

def size (m : Message) : Nat :=
  let payload := (Bytes.ofString m.payload).length
  word.length + Decimal.width payload + (Bytes.ofString m.nickname).length + payload + 3

/-- Writes a message behind what a buffer holds, valid or not, and counts the bytes. -/
def write (m : Message) : StateM Bytes Nat := counted do
  put word
  put [colon]
  put (Decimal.text (Bytes.ofString m.payload).length)
  put [colon]
  put (Bytes.ofString m.nickname)
  put [colon]
  put (Bytes.ofString m.payload)

def parse (input : Bytes) : Except EnvelopeError (Taken Message) := do
  let lead ← literal word input
  let length ← lengthField (input.drop lead)
  if length.value = 0 then .error .lengthZero
  else
    let rest := input.drop (lead + length.used)
    match Bytes.upTo? colon rest with
    | none => .error .nicknameUnterminated
    | some name =>
      let nickname ← textField name
      let used := lead + length.used + name.length + 1
      let body := (input.drop used).take length.value
      if body.length < length.value then .error .payloadTruncated
      else
        let payload ← textField body
        .ok ⟨⟨payload, nickname⟩, used + length.value⟩

end Message

end Parley.Envelope

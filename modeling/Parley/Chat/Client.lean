import Parley.Chat.Phrase
import Parley.Session.Turn

namespace Parley.Chat

open Envelope

/-- The bytes of a frame that are envelopes: all but the words of a greeting by this name. -/
def spoken (nickname : String) (input : Bytes) : Bytes :=
  (Bytes.after? (greeting nickname) input).getD input

/-- Hands on every message in `input`; a malformed envelope is reported, and what it held before
its fault is handed on too. -/
def deliveries (input : Bytes) : List Action :=
  (Walk.all input).flatMap fun (item, _) =>
    match item with
    | .ok messages => messages.map (.deliver ∘ .message)
    | .error e => .warn (.malformedEnvelope e) :: e.messages.map (.deliver ∘ .message)

end Parley.Chat

def Parley.Handler.chatClient {σ : Type} (nickname : String) : Handler σ where
  react hook session shared :=
    (shared, match hook with
      | .handshake .. => [.read]
      | .message input _ =>
        if input = Chat.nameRequest then [.append (Chat.introduction nickname)]
        else Chat.deliveries (Chat.spoken nickname input)
      | _ => hook.standard session)

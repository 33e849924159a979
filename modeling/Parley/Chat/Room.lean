import Parley.Chat.Phrase
import Parley.Session.Turn

namespace Parley.Chat

open Envelope

structure Member where
  id : SessionId
  nickname : String
  deriving DecidableEq, Repr

/-- A newcomer is asked for a name, and is a member once it has given one. What a member says is
recorded, echoed to it and posted to the others. -/
structure Room where
  /-- How many messages are kept; no limit is written 0. -/
  limit : Nat
  members : List Member := []
  history : List Message := []
  deriving DecidableEq, Repr

namespace Room

def member? (room : Room) (id : SessionId) : Option Member :=
  room.members.find? (·.id = id)

def hasMember (room : Room) (id : SessionId) : Bool :=
  (room.member? id).isSome

def recent (limit : Nat) (messages : List Message) : List Message :=
  if limit = 0 then messages else messages.drop (messages.length - limit)

def record (messages : List Message) (room : Room) : Room :=
  { room with history := recent room.limit (room.history ++ messages) }

def postOthers (room : Room) (sender : SessionId) (data : Bytes) : List Action :=
  (room.members.filter (·.id ≠ sender)).map fun m => .post m.id (.push data)

/-- Welcomes a session that gave its name. One that cannot be posted to is left alone, an unfit
name is asked for again, and a member stays what it is. -/
def join (session : Session) (name : String) (room : Room) : Room × List Action :=
  if !session.reachable then (room, [])
  else if (joinNotice name).validate.toBool = false then (room, [.append nameRequest])
  else
    match encode [joinNotice name] with
    | .error e => (room, [.warn (.joinNotEncodable e)])
    | .ok notice =>
      if room.hasMember session.id then (room, [])
      else
        let others := room.postOthers session.id notice
        let room := room.record [joinNotice name]
        let history := match encode room.history with
          | .ok past => .append past
          | .error e => .warn (.historyNotEncodable e)
        ({ room with members := room.members ++ [⟨session.id, name⟩] },
          .append (greeting name) :: history :: others)

def leave (id : SessionId) (room : Room) : Room × List Action :=
  match room.member? id with
  | none => (room, [])
  | some member =>
    let room := { room with members := room.members.filter (·.id ≠ id) }
    let notice := leaveNotice member.nickname
    let actions := match encode [notice] with
      | .ok data => room.postOthers id data
      | .error e => [.warn (.leaveNotEncodable e)]
    (room.record [notice], actions)

/-- Takes what a session says, up to the first malformed envelope. -/
def hear (id : SessionId) (input : Bytes) (room : Room) : Room × List Action :=
  let reading := readAll input
  let warnings := reading.error.toList.map fun e => .warn (.invalidChatMessage e)
  let valid := input.take reading.offset
  if valid.isEmpty then (room, warnings ++ [.read])
  else
    (room.record reading.batches.flatten,
      warnings ++ .append valid :: room.postOthers id valid)

def receive (session : Session) (input : Bytes) (room : Room) : Room × List Action :=
  match introduced? input with
  | some name => room.join session name
  | none => room.hear session.id input

end Room

end Parley.Chat

/-- The service of a chat room, which keeps a handle to each of its members. -/
def Parley.Handler.chatRoom : Handler Chat.Room where
  react hook session room :=
    match hook with
    | .accept _ => (room, [.append Chat.nameRequest])
    | .message input _ => room.receive session input
    | .close _ | .finish => room.leave session.id
    | hook => (room, hook.standard session)
  holds room id := room.hasMember id

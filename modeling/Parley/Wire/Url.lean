import Parley.Fault

namespace Parley.Wire

/-- The bytes that may stand in an authority, apart from the percent sign. -/
def isUriByte (b : UInt8) : Bool :=
  let c := Char.ofNat b.toNat
  c.isAlphanum || "!#$&'()*+,-./:;=?@[]_~".contains c

/-- The bytes that may stand in a path as they are; text beyond ASCII may too. -/
def isPathByte (b : UInt8) : Bool :=
  0x7F ≤ b || b == 0x21 || b == 0x22 || (0x24 ≤ b && b ≤ 0x3B) || b == 0x3D ||
    (0x40 ≤ b && b ≤ 0x5F) || (0x61 ≤ b && b ≤ 0x7E)

def isQueryByte (b : UInt8) : Bool :=
  0x7F ≤ b || b == 0x21 || (0x24 ≤ b && b ≤ 0x3B) || b == 0x3D || (0x3F ≤ b && b ≤ 0x7E)

namespace Byte

def slash : UInt8 := 0x2F
def question : UInt8 := 0x3F
def hash : UInt8 := 0x23
def colon : UInt8 := 0x3A
def atSign : UInt8 := 0x40
def percent : UInt8 := 0x25
def openBracket : UInt8 := 0x5B
def closeBracket : UInt8 := 0x5D

end Byte

open Byte

/-- What an authority has shown of itself so far. -/
structure AuthorityScan where
  colons : Nat := 0
  opened : Bool := false
  closed : Bool := false
  /-- A percent sign that is not known to stand in the userinfo. -/
  percented : Bool := false
  /-- The last byte was an at sign. -/
  endsWithAt : Bool := false

namespace AuthorityScan

def step (s : AuthorityScan) (b : UInt8) : Except RequestError AuthorityScan :=
  let s := { s with endsWithAt := false }
  if b == colon then
    if 8 ≤ s.colons then .error .authority else .ok { s with colons := s.colons + 1 }
  else if b == openBracket then
    if s.percented || s.opened then .error .authority else .ok { s with opened := true }
  else if b == closeBracket then
    if !s.opened || s.closed then .error .authority
    else .ok { s with closed := true, colons := 0, percented := false }
  else if b == atSign then .ok { s with colons := 0, percented := false, endsWithAt := true }
  else if b == percent then .ok { s with percented := true }
  else if isUriByte b then .ok s
  else .error .uriCharacter

/-- At most one colon, for the port, and no percent sign may be left at the end. -/
def accept (s : AuthorityScan) : Bool :=
  s.opened == s.closed && s.colons ≤ 1 && !s.endsWithAt && !s.percented

end AuthorityScan

/-- The authority at the front of `b`, which ends where a path, a query or a fragment begins. -/
def authority (b : Bytes) : Except RequestError Bytes := do
  let text := b.takeWhile fun x => x != slash && x != question && x != hash
  let scan ← text.foldlM AuthorityScan.step {}
  if scan.accept then .ok text else .error .authority

/-- A path and a query without the fragment behind them; an empty one is the root. -/
def pathAndQuery (b : Bytes) : Except RequestError Bytes :=
  let kept := b.takeWhile (· != hash)
  let path := kept.takeWhile (· != question)
  let query := kept.drop (path.length + 1)
  if path.all isPathByte && query.all isQueryByte then
    .ok (if kept.isEmpty then [slash] else kept)
  else .error .uriCharacter

def maxUri : Nat := 65534

structure Url where
  /-- The value of the host field: the authority without its userinfo. -/
  host : Bytes
  target : Bytes
  deriving DecidableEq, Repr

/-- The part of an authority behind its first at sign. -/
def withoutUserinfo (authority : Bytes) : Bytes :=
  if authority.contains atSign then (authority.dropWhile (· != atSign)).tail else authority

/-- Reads an address, which names the protocol in front. -/
def Url.parse (address : String) : Except SocketError Url := do
  let text := (Bytes.ofString address).drop "ws://".length
  let refuse {α : Type} (e : RequestError) : Except SocketError α := .error (.request e)
  if maxUri < text.length + "ws://".length then refuse .uriTooLong
  else
    match authority text with
    | .error e => refuse e
    | .ok auth =>
      if auth.isEmpty then refuse .malformed
      else
        match pathAndQuery (text.drop auth.length) with
        | .error e => refuse e
        | .ok target =>
          let host := withoutUserinfo auth
          if host.isEmpty then .error .emptyHostName else .ok ⟨host, target⟩

/-- A request's target has to begin with a path. -/
def checkTarget (target : Bytes) : Except SocketError Unit :=
  match target with
  | b :: rest =>
    if b == slash then .ok ()
    else .error (.request (if rest.isEmpty then .uriCharacter else .malformed))
  | [] => .error (.request .malformed)

end Parley.Wire

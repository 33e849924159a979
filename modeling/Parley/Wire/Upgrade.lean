import Parley.Http
import Parley.Wire.Freight
import Parley.Wire.Header
import Parley.Wire.Url

namespace Parley.Wire

def maxFields : Nat := 124

/-- The fields of a request that are always written, and once. -/
def ownFields : List String :=
  ["host", "connection", "upgrade", "sec-websocket-version", "sec-websocket-key"]

/-- The subprotocols that a value lists. -/
def listed (value : String) : List String :=
  (value.toList.splitOn ',').map fun part => Header.trim (String.ofList part)

/-- A request as it is made for an address, or as it was read; names are in lower case. -/
structure Request where
  target : Bytes
  /-- What the host field says. -/
  host : Bytes := []
  headers : List HeaderField := []

/-- A library for requests as they travel here. What is shown of the upgrade is shown of any library
that is lawful. -/
def http : Http Request (List HeaderField) String String where
  request address :=
    match Url.parse address with
    | .error e => .error e.toTransport
    | .ok url => .ok { target := url.target, host := url.host }
  name s := if Header.isName s then .ok s.toLower else .error RequestError.headerName.message
  value s := if Header.isValue s then .ok s else .error RequestError.headerValue.message
  text? v := if Header.isVisible v then some v else none
  protocol := Header.protocol
  path r := Bytes.lossyText (r.target.takeWhile (· != Byte.question))
  values name r := (r.headers.filter (Header.named name)).map (·.2)
  append name value r := { r with headers := r.headers ++ [(name, value)] }
  insert name value headers := headers.filter (!Header.named name ·) ++ [(name, value)]
  appendTo name value headers := headers ++ [(name, value)]

namespace RequestHead

def ofRequest (r : Request) : Except SocketError RequestHead :=
  let added := r.headers.filter fun f => !ownFields.contains f.1
  if added.any fun f => !Header.isVisible f.2 then .error .textEncoding
  else
    let own := Header.lineSize "connection" "Upgrade" + Header.lineSize "upgrade" "websocket" +
      Header.lineSize "sec-websocket-version" "13" + "sec-websocket-key: ".length + 24 + 2 +
      "host: ".length + r.host.length + 2
    .ok
      { target := r.target
        offers := (added.filter (Header.named Header.protocol)).map (·.2)
        fields := ownFields.length + added.length
        size := "GET ".length + r.target.length + " HTTP/1.1".length + 2 + own +
          Header.linesSize added + 2 }

def toRequest (r : RequestHead) : Except SocketError Request := do
  if maxFields < r.fields then .error .tooManyHeaders
  checkTarget r.target
  .ok { target := r.target, headers := r.offers.map fun value => (Header.protocol, value) }

/-- The subprotocols that the answer may name: those of the first field that offers any. -/
def acceptable (r : RequestHead) : Option (List String) :=
  r.offers.head?.map listed

end RequestHead

/-- How a server answers a request: with a response head, and text behind it if it refuses. -/
structure Answer where
  head : ResponseHead
  /-- Length of the text behind the head. -/
  bodySize : Nat := 0
  deriving DecidableEq, Repr

namespace Answer

def isRefusal (a : Answer) : Bool := a.head.status ≠ 101

/-- The head of a response with these fields, whose values arrive trimmed. -/
def headOf (status : Nat) (reason : String) (fields : List HeaderField) : ResponseHead :=
  { status, reason
    headers := fields.map fun f => (f.1.toLower, Header.trim f.2)
    size := "HTTP/1.1 101 ".length + reason.utf8ByteSize + 2 +
      Header.linesSize fields + 2 }

def reason : (status : Nat) → String
  | 400 => "Bad Request"
  | 404 => "Not Found"
  | _ => ""

def refusal (r : Refusal) : Answer :=
  ⟨headOf r.status (reason r.status) [], r.text.length⟩

/-- The field that proves to the client that its request was read. -/
def proof : HeaderField := ("sec-websocket-accept", String.ofList (List.replicate 28 'A'))

/-- What a response says that switches protocols, whoever asked. -/
def ownFields : List HeaderField := [("connection", "Upgrade"), ("upgrade", "websocket"), proof]

def switching (headers : List HeaderField) : Answer :=
  ⟨headOf 101 "Switching Protocols" headers, 0⟩

def freight (a : Answer) : Freight :=
  ⟨.response a.head, a.head.size, true⟩ ::
    (if a.bodySize = 0 then [] else [⟨.body, a.bodySize, true⟩])

end Answer

/-- What a server does about a request: an answer to write, or an error that ends it without. -/
def answer (policy : AcceptPolicy) (r : RequestHead) : Except SocketError Answer := do
  let request ← r.toRequest
  match http.accept policy request Answer.ownFields with
  | .error refused => .ok (.refusal refused)
  | .ok headers =>
    let answer := Answer.switching headers
    if answer.head.headers.all fun f => Header.isVisible f.2 then .ok answer
    else .error .textEncoding

/-- What a client makes of the answer to its request. -/
def verify (r : RequestHead) (a : ResponseHead) : Except SocketError UpgradeResponse :=
  let confirmed := (a.headers.find? (Header.named Header.protocol)).map (·.2)
  if maxFields < a.headers.length then .error .tooManyHeaders
  else if a.status ≠ 101 then .error (.refused a.status a.reason)
  else
    match confirmed, r.acceptable with
    | none, some _ => .error .offeredProtocolIgnored
    | some _, none => .error .unwantedProtocol
    | some p, some offered =>
      if offered.contains p then .ok ⟨a.status, a.headers⟩ else .error .unknownProtocol
    | none, none => .ok ⟨a.status, a.headers⟩

end Parley.Wire

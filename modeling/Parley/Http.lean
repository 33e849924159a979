import Parley.Text.Blank
import Parley.Transport

namespace Parley

/-- How a server turns a request down: a status, and a text for whoever asked. -/
structure Refusal where
  status : Nat
  text : String
  deriving DecidableEq, Repr

/-- What the upgrade needs of a library for HTTP, whatever its requests and responses are. -/
structure Http (Request Response Name Value : Type) where
  request : String → Except TransportError Request
  /-- The name that a text spells, or what is wrong with it. -/
  name : String → Except String Name
  value : String → Except String Value
  /-- The text of a value, unless it has other characters than text may have. -/
  text? : Value → Option String
  /-- The name that subprotocols are offered under. -/
  protocol : Name
  path : Request → String
  values : Name → Request → List Value
  append : Name → Value → Request → Request
  /-- Sets a field of a response, whatever it was before. -/
  insert : Name → Value → Response → Response
  appendTo : Name → Value → Response → Response

namespace Http

variable {Request Response Name Value : Type} (http : Http Request Response Name Value)

def addField (request : Request) (f : HeaderField) : Except TransportError Request :=
  match http.name f.1 with
  | .error e => .error (.failure s!"request header name: {e}")
  | .ok name =>
    match http.value f.2 with
    | .error e => .error (.failure s!"request header value: {e}")
    | .ok value => .ok (http.append name value request)

def handshake (r : UpgradeRequest) : Except TransportError Request := do
  let request ← http.request s!"ws://{r.host}{r.target}"
  r.headers.foldlM http.addField request

/-- The subprotocols that a request offers, in whatever fields. -/
def offered (request : Request) : List String :=
  ((http.values http.protocol request).filterMap http.text?).flatMap fun text =>
    (text.toList.splitOn ',').map fun part => Text.trim (String.ofList part)

/-- Names the subprotocol in a response, if it can be named there. -/
def confirm (protocol : String) (response : Response) : Response :=
  match http.value protocol with
  | .ok value => http.insert http.protocol value response
  | .error _ => response

/-- A field that is not well formed is left out. -/
def extend (response : Response) (f : HeaderField) : Response :=
  match http.name f.1, http.value f.2 with
  | .ok name, .ok value => http.appendTo name value response
  | _, _ => response

/-- What a server makes of a request by its policy, and of the response that waits for it. -/
def accept (policy : AcceptPolicy) (request : Request) (response : Response) :
    Except Refusal Response :=
  if policy.path.any (· ≠ http.path request) then .error ⟨404, "unknown path"⟩
  else
    match policy.protocol with
    | none => .ok (policy.headers.foldl http.extend response)
    | some protocol =>
      if protocol ∉ http.offered request then .error ⟨400, "missing or invalid subprotocol"⟩
      else .ok (policy.headers.foldl http.extend (http.confirm protocol response))

end Http

end Parley

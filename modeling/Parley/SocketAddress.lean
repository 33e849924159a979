import Parley.Fault

namespace Parley

inductive SocketAddress
  /-- Octets, the first one first. -/
  | four (octets : List Nat) (port : Nat)
  /-- Groups of 16 bits, the first one first; a scope of 0 is none. -/
  | six (groups : List Nat) (scope port : Nat)
  deriving DecidableEq, Repr

namespace SocketAddress

abbrev Scan (α : Type) := List Char → Option (α × List Char)

def digit? (base : Nat) (c : Char) : Option Nat :=
  let value :=
    if c.isDigit then some (c.toNat - '0'.toNat)
    else if 'a' ≤ c && c ≤ 'f' then some (c.toNat - 'a'.toNat + 10)
    else if 'A' ≤ c && c ≤ 'F' then some (c.toNat - 'A'.toNat + 10)
    else none
  value.filter (· < base)

/-- A number below `limit`, from all the digits that are there. -/
def number (base limit : Nat) (fits : List Char → Bool) : Scan Nat := fun cs =>
  let ds := cs.takeWhile fun c => (digit? base c).isSome
  let n := ds.foldl (fun n c => n * base + (digit? base c).getD 0) 0
  if !ds.isEmpty && fits ds && n < limit then some (n, cs.drop ds.length) else none

/-- An octet has no leading zero. -/
def octet : Scan Nat :=
  number 10 256 fun ds => ds.length ≤ 3 && (ds.length = 1 || ds.head? ≠ some '0')

def group : Scan Nat := number 16 65536 fun ds => ds.length ≤ 4

def after {α : Type} (c : Char) (scan : Scan α) : Scan α
  | x :: rest => if x = c then scan rest else none
  | [] => none

def octets : Scan (List Nat) := fun cs => do
  let (a, cs) ← octet cs
  let (b, cs) ← after '.' octet cs
  let (c, cs) ← after '.' octet cs
  let (d, cs) ← after '.' octet cs
  some ([a, b, c, d], cs)

/-- Two groups written as four octets. -/
def embedded : Scan (List Nat) := fun cs =>
  (octets cs).bind fun
    | ([a, b, c, d], cs) => some ([a * 256 + b, c * 256 + d], cs)
    | _ => none

def separated {α : Type} (isFirst : Bool) (scan : Scan α) : Scan α :=
  if isFirst then scan else after ':' scan

/-- As many groups as there are, at most `limit`; says whether octets ended them. -/
def groups : (limit : Nat) → (isFirst : Bool) → List Char → List Nat × Bool × List Char
  | 0, _, cs => ([], false, cs)
  | limit + 1, isFirst, cs =>
    let tail := if 0 < limit then separated isFirst embedded cs else none
    match tail with
    | some (pair, cs) => (pair, true, cs)
    | none =>
      match separated isFirst group cs with
      | some (g, cs) =>
        let (gs, ended, cs) := groups limit false cs
        (g :: gs, ended, cs)
      | none => ([], false, cs)

/-- Eight groups; two colons stand for a run of zeros. -/
def allGroups : Scan (List Nat) := fun cs =>
  let (front, ended, rest) := groups 8 true cs
  if front.length = 8 then some (front, rest)
  else if ended then none
  else
    match rest with
    | ':' :: ':' :: rest =>
      let (back, _, rest) := groups (7 - front.length) true rest
      some (front ++ List.replicate (8 - front.length - back.length) 0 ++ back, rest)
    | _ => none

def port : Scan Nat := after ':' (number 10 65536 fun _ => true)

def scope (cs : List Char) : Nat × List Char :=
  (after '%' (number 10 UInt32.size fun _ => true) cs).getD (0, cs)

def scanSix : Scan SocketAddress
  | '[' :: cs => do
    let (gs, cs) ← allGroups cs
    let (zone, cs) := scope cs
    let (p, cs) ← after ']' port cs
    some (.six gs zone p, cs)
  | _ => none

def scanFour : Scan SocketAddress := fun cs => do
  let (os, cs) ← octets cs
  let (p, cs) ← port cs
  some (.four os p, cs)

def parse (text : String) : Option SocketAddress :=
  match (scanFour text.toList).or (scanSix text.toList) with
  | some (a, []) => some a
  | _ => none

def syntaxError : String := "invalid socket address syntax"

/-- The first of the longest runs of zeros, as its start and length. -/
def zeroRun (gs : List Nat) : Nat × Nat :=
  let runs := (List.range gs.length).map fun i => (i, ((gs.drop i).takeWhile (· = 0)).length)
  runs.foldl (fun best run => if best.2 < run.2 then run else best) (0, 0)

def hexGroups (gs : List Nat) : String :=
  ":".intercalate (gs.map fun g => String.ofList (Nat.toDigits 16 g))

def dotted (os : List Nat) : String := ".".intercalate (os.map toString)

def groupsText (gs : List Nat) : String :=
  match gs with
  | [0, 0, 0, 0, 0, 0xffff, a, b] => "::ffff:" ++ dotted [a / 256, a % 256, b / 256, b % 256]
  | _ =>
    let (start, length) := zeroRun gs
    if 1 < length then
      hexGroups (gs.take start) ++ "::" ++ hexGroups (gs.drop (start + length))
    else hexGroups gs

def text : SocketAddress → String
  | four os p => s!"{dotted os}:{p}"
  | six gs zone p =>
    let zoneText := if zone = 0 then "" else s!"%{zone}"
    s!"[{groupsText gs}{zoneText}]:{p}"

/-- A port that is given with a host's name. -/
def namedPort? (text : String) : Option Nat :=
  let digits := match text.toList with
    | '+' :: rest => rest
    | cs => cs
  match number 10 65536 (fun _ => true) digits with
  | some (p, []) => some p
  | _ => none

/-- What dialling an address comes to: four octets lead nowhere, and for eight groups there is no
address to dial from. -/
def unreachable : SocketAddress → String
  | four .. => "Network is unreachable (os error 101)"
  | six .. => "Cannot assign requested address (os error 99)"

/-- What dialling a host by its name comes to. Only the local host is known. -/
def unreachableHost (name : String) : String :=
  if name = "localhost" then unreachable (four [127, 0, 0, 1] 0)
  else
    "failed to lookup address information: " ++
      if name = "" then "Name or service not known" else "Temporary failure in name resolution"

/-- Why an address cannot be dialled. A name has to come with a port. -/
def dialFault (address : String) : String :=
  match parse address with
  | some a => unreachable a
  | none =>
    match address.toList.reverse.idxOf? ':' with
    | none => "invalid socket address"
    | some behind =>
      let start := address.length - behind
      match namedPort? (String.ofList (address.toList.drop start)) with
      | some _ => unreachableHost (String.ofList (address.toList.take (start - 1)))
      | none => "invalid port value"

end SocketAddress

/-- What connecting a client comes to without a network. -/
def ClientConfig.connectFault (c : ClientConfig) : EndpointError :=
  match c.session.validate with
  | .error e => .ofConfig e
  | .ok () => .stream (SocketAddress.dialFault c.address)

end Parley

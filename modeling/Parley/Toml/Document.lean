import Parley.Toml.Number
import Parley.Toml.Table

namespace Parley.Toml

/-- A number or a date: whatever begins with a sign or a digit. -/
def numeric (cs : List Char) : Option (Value × List Char) :=
  match date cs with
  | .found () rest => some (.date, rest)
  | .malformed => none
  | .absent =>
    match float cs with
    | .found () rest => some (.float, rest)
    | .malformed => none
    | .absent =>
      match specialFloat cs with
      | .found () rest => some (.float, rest)
      | _ => (integer cs).map fun (n, rest) => (.integer n, rest)

def word (w : String) : Reader Unit := fun cs =>
  if w.toList.isPrefixOf cs then some ((), cs.drop w.length) else none

mutual

/-- A value; `depth` counts the arrays and braces that it stands in. -/
def value : (fuel depth : Nat) → Reader Value
  | 0, _, _ => none
  | fuel + 1, depth, cs =>
    match cs with
    | '"' :: _ | '\'' :: _ => (string cs).map fun (s, rest) => (.string s, rest)
    | '[' :: rest =>
      if depth + 1 < nesting then
        let rest := skipLines rest.length rest
        match rest with
        | ']' :: rest => some (.array [], rest)
        | _ => (arrayItems fuel (depth + 1) rest).map fun (vs, rest) => (.array vs, rest)
      else none
    | '\x7b' :: rest =>
      if depth + 1 < nesting then
        match skipBlanks rest with
        | '\x7d' :: rest => some (.table .braces [], rest)
        | rest =>
          (pairs fuel (depth + 1) [] rest).map fun (es, rest) => (.table .braces es, rest)
      else none
    | 't' :: _ => (word "true" cs).map fun (_, rest) => (.boolean true, rest)
    | 'f' :: _ => (word "false" cs).map fun (_, rest) => (.boolean false, rest)
    | _ => numeric cs

/-- The items of an array from the next one on, up to its closing bracket. A comma may stand
behind the last. -/
def arrayItems : (fuel depth : Nat) → Reader (List Value)
  | 0, _, _ => none
  | fuel + 1, depth, cs => do
    let (v, rest) ← value fuel depth cs
    match skipLines rest.length rest with
    | ']' :: rest => some ([v], rest)
    | ',' :: rest =>
      match skipLines rest.length rest with
      | ']' :: rest => some ([v], rest)
      | rest => do
        let (vs, rest) ← arrayItems fuel depth rest
        some (v :: vs, rest)
    | _ => none

/-- The pairs in braces from the next one on, up to the closing brace, added to those read so
far. -/
def pairs : (fuel depth : Nat) → Entries → Reader Entries
  | 0, _, _, _ => none
  | fuel + 1, depth, es, cs => do
    let ((path, last), rest) ← key cs
    let ((), rest) ← char '=' rest
    let (v, rest) ← value fuel depth (skipBlanks rest)
    let es ← es.put path last v
    match skipBlanks rest with
    | '\x7d' :: rest => some (es, rest)
    | ',' :: rest => pairs fuel depth es rest
    | _ => none

end

/-- A document as far as it is read: its root, and the path of the table that pairs go to. -/
structure Draft where
  root : Entries := []
  path : List String := []

namespace Draft

/-- Takes the pair at the front of a line. -/
def takePair (d : Draft) (cs : List Char) : Option (Draft × List Char) := do
  let ((path, last), rest) ← key cs
  let ((), rest) ← char '=' rest
  let rest := skipBlanks rest
  let (v, rest) ← value (rest.length + 1) 0 rest
  let rest ← endLine? rest
  let root ← d.root.atPath d.path (·.put path last v)
  some ({ d with root }, rest)

def takeHeader (d : Draft) (cs : List Char) : Option (Draft × List Char) := do
  let ((path, last), rest) ← key cs
  let ((), rest) ← char ']' rest
  let rest ← endLine? rest
  let root ← d.root.atPath path (·.claim last)
  some ({ root, path := path ++ [last] }, rest)

/-- Takes a double-bracketed header, read behind its first two brackets. -/
def takeTables (d : Draft) (cs : List Char) : Option (Draft × List Char) := do
  let ((path, last), rest) ← key cs
  let ((), rest) ← char ']' rest
  let ((), rest) ← char ']' rest
  let rest ← endLine? rest
  let root ← d.root.atPath path (·.append last)
  some ({ root, path := path ++ [last] }, rest)

/-- Takes everything up to the end, a line at a time. -/
def takeAll : (fuel : Nat) → Draft → List Char → Option Draft
  | 0, _, _ => none
  | fuel + 1, d, cs =>
    match skipBlanks cs with
    | [] => some d
    | '[' :: '[' :: rest => (d.takeTables rest).bind fun (d, rest) => takeAll fuel d rest
    | '[' :: rest => (d.takeHeader rest).bind fun (d, rest) => takeAll fuel d rest
    | cs =>
      match lineEnd? (skipComment cs) with
      | some rest => takeAll fuel d rest
      | none =>
        if (skipComment cs).isEmpty then some d
        else (d.takePair cs).bind fun (d, rest) => takeAll fuel d rest

end Draft

/-- A byte order mark ahead of the text is not part of it. -/
def skipMark : List Char → List Char
  | '\uFEFF' :: rest => rest
  | cs => cs

def parse (text : String) : Option Entries :=
  let cs := skipMark text.toList
  (Draft.takeAll (cs.length + 1) {} cs).map (·.root)

end Parley.Toml

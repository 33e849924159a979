namespace Parley.Toml

inductive Origin
  | header
  /-- A header went through it. -/
  | passed
  /-- Dotted keys went through it. -/
  | dotted
  | braces
  deriving DecidableEq, Repr

/-- Floats and dates are not used anywhere, so that their values are not kept. -/
inductive Value
  | string (text : String)
  | integer (value : Int)
  | boolean (value : Bool)
  | float
  | date
  | array (items : List Value)
  | table (origin : Origin) (entries : List (String × Value))
  /-- The tables of one double-bracketed header, the latest first. -/
  | tables (latest : List (List (String × Value)))

abbrev Entries := List (String × Value)

namespace Entries

def get? (key : String) (es : Entries) : Option Value := es.lookup key

def set (key : String) (v : Value) : Entries → Entries
  | [] => [(key, v)]
  | (k, old) :: rest => if k = key then (k, v) :: rest else (k, old) :: set key v rest

def define (key : String) (v : Value) (es : Entries) : Option Entries :=
  match es.get? key with
  | none => some (es ++ [(key, v)])
  | some _ => none

/-- Changes the table that a header's path leads to. Tables on the way are made as they are
needed; of several tables under one header the latest is meant. -/
def atPath : List String → (Entries → Option Entries) → Entries → Option Entries
  | [], f, es => f es
  | key :: path, f, es =>
    match es.get? key with
    | none => (atPath path f []).map fun inner => es.set key (.table .passed inner)
    | some (.table .braces _) => none
    | some (.table origin inner) =>
      (atPath path f inner).map fun inner => es.set key (.table origin inner)
    | some (.tables (inner :: earlier)) =>
      (atPath path f inner).map fun inner => es.set key (.tables (inner :: earlier))
    | some _ => none

/-- Claims the table that a header names, which nothing may have defined. -/
def claim (key : String) (es : Entries) : Option Entries :=
  match es.get? key with
  | none => some (es.set key (.table .header []))
  | some (.table .passed inner) => some (es.set key (.table .header inner))
  | some _ => none

/-- Adds a table under a double-bracketed header. -/
def append (key : String) (es : Entries) : Option Entries :=
  match es.get? key with
  | none => some (es.set key (.tables [[]]))
  | some (.tables earlier) => some (es.set key (.tables ([] :: earlier)))
  | some _ => none

/-- Defines a key behind a dotted path. The last table on the way has to be one that dotted keys
made. -/
def put : List String → (key : String) → Value → Entries → Option Entries
  | [], key, v, es => es.define key v
  | first :: path, key, v, es =>
    let last := path.isEmpty
    match es.get? first with
    | none => (put path key v []).map fun inner => es.set first (.table .dotted inner)
    | some (.table .dotted inner) =>
      (put path key v inner).map fun inner => es.set first (.table .dotted inner)
    | some (.table .passed inner) =>
      if last then none
      else (put path key v inner).map fun inner => es.set first (.table .passed inner)
    | some (.tables (inner :: earlier)) =>
      if last then none
      else (put path key v inner).map fun inner => es.set first (.tables (inner :: earlier))
    | some _ => none

end Entries

end Parley.Toml

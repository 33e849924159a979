import Parley.Toml.Text

namespace Parley.Toml

/-- One or more digits, with single underscores between them. -/
def digits (isDigit : Char → Bool) : (fuel : Nat) → Reader (List Char)
  | 0, _ => none
  | _ + 1, [] => none
  | fuel + 1, c :: rest =>
    if !isDigit c then none
    else
      match rest with
      | '_' :: more => (digits isDigit fuel more).map fun (ds, rest) => (c :: ds, rest)
      | next :: _ =>
        if isDigit next then (digits isDigit fuel rest).map fun (ds, rest) => (c :: ds, rest)
        else some ([c], rest)
      | [] => some ([c], rest)

def anyDigits (isDigit : Char → Bool) : Reader (List Char) := fun cs =>
  digits isDigit (cs.length + 1) cs

def valueOf (base : Nat) (ds : List Char) : Nat :=
  ds.foldl (fun n c => n * base + (hexDigit? c).getD 0) 0

def sign : List Char → Bool × List Char
  | '-' :: rest => (true, rest)
  | '+' :: rest => (false, rest)
  | cs => (false, cs)

def decimal : Reader (Bool × List Char) := fun cs =>
  let (negative, cs) := sign cs
  match cs with
  | '0' :: rest => some ((negative, ['0']), rest)
  | _ => (anyDigits Char.isDigit cs).map fun (ds, rest) => ((negative, ds), rest)

def inRange (n : Int) : Option Int :=
  if Int64.minValue.toInt ≤ n && n ≤ Int64.maxValue.toInt then some n else none

def isHexDigit (c : Char) : Bool := (hexDigit? c).isSome

def isDigitBelow (base : Nat) (c : Char) : Bool := (hexDigit? c).any (· < base)

/-- An integer, decimal or with the lead of another base. -/
def integer : Reader Int := fun cs =>
  let based (base : Nat) (rest : List Char) : Option (Int × List Char) := do
    let (ds, rest) ← anyDigits (isDigitBelow base) rest
    let n ← inRange (valueOf base ds)
    some (n, rest)
  match cs with
  | '0' :: 'x' :: rest => based 16 rest
  | '0' :: 'o' :: rest => based 8 rest
  | '0' :: 'b' :: rest => based 2 rest
  | _ => do
    let ((negative, ds), rest) ← decimal cs
    let n : Int := valueOf 10 ds
    let n ← inRange (if negative then -n else n)
    some (n, rest)

/-- A decimal of this many digits and this exponent rounds to infinity. -/
def overflows (mantissa : Nat) (exponent : Int) : Bool :=
  let limit := Nat.pow 2 1024 - Nat.pow 2 970
  let size := (toString mantissa).length
  if mantissa = 0 then false
  else if exponent + size < 300 then false
  else if 400 < exponent + size then true
  else if 0 ≤ exponent then limit ≤ mantissa * Nat.pow 10 exponent.toNat
  else limit * Nat.pow 10 (-exponent).toNat ≤ mantissa

/-- A reader that tells apart not being meant and being malformed. -/
inductive Attempted (α : Type)
  | absent
  | malformed
  | found (value : α) (rest : List Char)

/-- The exponent of a float, read behind its letter. -/
def exponent : Reader Int := fun cs =>
  let (negative, cs) := sign cs
  (anyDigits Char.isDigit cs).map fun (ds, rest) =>
    let n : Int := valueOf 10 ds
    (if negative then -n else n, rest)

/-- A float is a decimal integer with a fraction, an exponent or both. -/
def float (cs : List Char) : Attempted Unit :=
  let finish (negative : Bool) (ds : List Char) (places : Nat) (e : Int) (rest : List Char) :
      Attempted Unit :=
    if !negative && overflows (valueOf 10 ds) (e - places) then .malformed else .found () rest
  let power (negative : Bool) (ds : List Char) (places : Nat) (rest : List Char) :
      Attempted Unit :=
    match exponent rest with
    | some (e, rest) => finish negative ds places e rest
    | none => .malformed
  match decimal cs with
  | none => .absent
  | some ((negative, ds), rest) =>
    match rest with
    | '.' :: rest =>
      match anyDigits Char.isDigit rest with
      | none => .malformed
      | some (fraction, rest) =>
        let all := ds ++ fraction
        match rest with
        | 'e' :: rest | 'E' :: rest => power negative all fraction.length rest
        | rest => finish negative all fraction.length 0 rest
    | 'e' :: rest | 'E' :: rest => power negative ds 0 rest
    | _ => .absent

/-- Infinity or no number at all, with or without a sign. -/
def specialFloat (cs : List Char) : Attempted Unit :=
  match (sign cs).2 with
  | 'i' :: 'n' :: 'f' :: rest | 'n' :: 'a' :: 'n' :: rest => .found () rest
  | _ => .absent

def fixedDigits (n : Nat) : Reader Nat := fun cs =>
  let ds := cs.take n
  if ds.length = n && ds.all Char.isDigit then some (valueOf 10 ds, cs.drop n) else none

def twoDigits (limit : Nat) : Reader Nat := fun cs =>
  (fixedDigits 2 cs).filter (·.1 ≤ limit)

def char (c : Char) : Reader Unit
  | x :: rest => if x = c then some ((), rest) else none
  | [] => none

def daysIn (year month : Nat) : Nat :=
  let leap := year % 4 = 0 && (year % 100 ≠ 0 || year % 400 = 0)
  match month with
  | 2 => if leap then 29 else 28
  | 4 | 6 | 9 | 11 => 30
  | _ => 31

/-- The month and day behind a year and its hyphen. -/
def monthAndDay (year : Nat) : Reader Unit := fun cs => do
  let (month, cs) ← twoDigits 12 cs
  let ((), cs) ← char '-' cs
  let (day, cs) ← twoDigits 31 cs
  if 0 < month && 0 < day && day ≤ daysIn year month then some ((), cs) else none

/-- The minute and second behind an hour and its colon. -/
def minuteAndSecond : Reader Unit := fun cs => do
  let (_, cs) ← twoDigits 59 cs
  let ((), cs) ← char ':' cs
  let (_, cs) ← twoDigits 60 cs
  match cs with
  | '.' :: rest =>
    let fraction := rest.takeWhile Char.isDigit
    some ((), if fraction.isEmpty then cs else rest.drop fraction.length)
  | _ => some ((), cs)

def time (cs : List Char) : Attempted Unit :=
  match twoDigits 23 cs with
  | some (_, ':' :: rest) =>
    match minuteAndSecond rest with
    | some ((), rest) => .found () rest
    | none => .malformed
  | _ => .absent

/-- The offset of a time from universal time, which may be left out. -/
def timeOffset (cs : List Char) : Attempted Unit :=
  let shift (rest : List Char) : Attempted Unit :=
    match twoDigits 23 rest with
    | some (_, ':' :: rest) =>
      match twoDigits 59 rest with
      | some (_, rest) => .found () rest
      | none => .malformed
    | _ => .malformed
  match cs with
  | 'Z' :: rest | 'z' :: rest => .found () rest
  | '+' :: rest | '-' :: rest => shift rest
  | rest => .found () rest

/-- The time behind a date, which may be left out. -/
def timeBehindDate (cs : List Char) : Attempted Unit :=
  match cs with
  | c :: rest =>
    if c == 'T' || c == 't' || c == ' ' then
      match time rest with
      | .found () rest => timeOffset rest
      | .malformed => .malformed
      | .absent => .found () cs
    else .found () cs
  | [] => .found () cs

def date (cs : List Char) : Attempted Unit :=
  match fixedDigits 4 cs with
  | some (year, '-' :: rest) =>
    match monthAndDay year rest with
    | some ((), rest) => timeBehindDate rest
    | none => .malformed
  | _ => time cs

end Parley.Toml

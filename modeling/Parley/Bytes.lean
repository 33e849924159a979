namespace Parley

abbrev Bytes := List UInt8

namespace Bytes

def ofString (s : String) : Bytes :=
  s.toUTF8.data.toList

/-- The text these bytes spell, if they are UTF-8. -/
def text? (b : Bytes) : Option String :=
  String.fromUTF8? ⟨b.toArray⟩

def after? (lead b : Bytes) : Option Bytes :=
  if lead.isPrefixOf b then some (b.drop lead.length) else none

/-- The bytes before the first `stop`, if there is one. -/
def upTo? (stop : UInt8) (b : Bytes) : Option Bytes :=
  if b.contains stop then some (b.takeWhile (· != stop)) else none

/-- The ranges of the continuation bytes a leading byte calls for; none for a byte that cannot
lead a longer sequence. -/
def continuations (lead : UInt8) : List (UInt8 × UInt8) :=
  let plain := (0x80, 0xBF)
  if lead < 0xC2 then []
  else if lead < 0xE0 then [plain]
  else if lead == 0xE0 then [(0xA0, 0xBF), plain]
  else if lead == 0xED then [(0x80, 0x9F), plain]
  else if lead < 0xF0 then [plain, plain]
  else if lead == 0xF0 then [(0x90, 0xBF), plain, plain]
  else if lead < 0xF4 then [plain, plain, plain]
  else if lead == 0xF4 then [(0x80, 0x8F), plain, plain]
  else []

/-- How many of the ranges the front of `b` meets, in order. -/
def matching : List (UInt8 × UInt8) → Bytes → Nat
  | (lo, hi) :: ranges, x :: b => if lo ≤ x && x ≤ hi then matching ranges b + 1 else 0
  | _, _ => 0

/-- The scalar value that a leading byte and its continuation bytes spell. -/
def scalar (lead : UInt8) (rest : Bytes) : Char :=
  let bits := match rest.length with
    | 1 => lead.toNat % 32
    | 2 => lead.toNat % 16
    | _ => lead.toNat % 8
  Char.ofNat (rest.foldl (fun n x => n * 64 + x.toNat % 64) bits)

/-- The characters of `b`, where each longest run of bytes that starts a sequence without
completing it stands for one replacement character. `fuel` bounds the bytes looked at. -/
def lossyChars : (fuel : Nat) → Bytes → List Char → List Char
  | 0, _, seen => seen.reverse
  | _, [], seen => seen.reverse
  | fuel + 1, x :: b, seen =>
    if x < 0x80 then lossyChars fuel b (Char.ofNat x.toNat :: seen)
    else
      let ranges := continuations x
      let n := matching ranges b
      if n == ranges.length && n > 0 then lossyChars fuel (b.drop n) (scalar x (b.take n) :: seen)
      else lossyChars fuel (b.drop n) ('\uFFFD' :: seen)

def lossyText (b : Bytes) : String :=
  (text? b).getD (String.ofList (lossyChars b.length b []))

end Bytes

end Parley

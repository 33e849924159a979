import Parley.Bytes

namespace Parley.Decimal

def digit (d : Nat) : UInt8 :=
  UInt8.ofNat (48 + d)

def isDigit (b : UInt8) : Bool :=
  48 ≤ b && b ≤ 57

def digitValue (b : UInt8) : Nat :=
  b.toNat - 48

/-- The decimal text of a number, without leading zeros. -/
def text (n : Nat) : Bytes :=
  if n < 10 then [digit n] else text (n / 10) ++ [digit (n % 10)]
termination_by n

def width (n : Nat) : Nat :=
  if n < 10 then 1 else width (n / 10) + 1
termination_by n

/-- The number that a run of digits denotes; leading zeros do not matter. -/
def value (b : Bytes) : Nat :=
  b.foldl (fun n d => n * 10 + digitValue d) 0

def value? (b : Bytes) : Option Nat :=
  if b ≠ [] ∧ b.all isDigit then some (value b) else none

end Parley.Decimal

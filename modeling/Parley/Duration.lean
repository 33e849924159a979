namespace Parley.Duration

def dropTrailingZeros (digits : List Char) : List Char :=
  (digits.reverse.dropWhile (· == '0')).reverse

def fraction (places part : Nat) : String :=
  let digits := (toString part).toList
  let padded := List.replicate (places - digits.length) '0' ++ digits
  match dropTrailingZeros padded with
  | [] => ""
  | kept => "." ++ String.ofList kept

/-- A span of nanoseconds, as `1.5s`, `2.5ms`, `1.001µs` or `7ns`. -/
def text (nanos : Nat) : String :=
  let inUnit (unit places : Nat) (name : String) : String :=
    toString (nanos / unit) ++ fraction places (nanos % unit) ++ name
  if 1000000000 ≤ nanos then inUnit 1000000000 9 "s"
  else if 1000000 ≤ nanos then inUnit 1000000 6 "ms"
  else if 1000 ≤ nanos then inUnit 1000 3 "µs"
  else inUnit 1 0 "ns"

end Parley.Duration

namespace Parley.Toml

abbrev Reader (α : Type) := List Char → Option (α × List Char)

def isBlank (c : Char) : Bool := c == ' ' || c == '\t'

/-- A character that may stand in a comment: anything but a control character. -/
def isPlain (c : Char) : Bool := c == '\t' || (' ' ≤ c && c != '\x7f')

def skipBlanks (cs : List Char) : List Char := cs.dropWhile isBlank

def skipComment : List Char → List Char
  | '#' :: rest => rest.dropWhile isPlain
  | cs => cs

/-- What is behind a line end at the front, if there is one. -/
def lineEnd? : List Char → Option (List Char)
  | '\n' :: rest => some rest
  | '\r' :: '\n' :: rest => some rest
  | _ => none

/-- What is behind the rest of a line on which nothing but a comment may stand. -/
def endLine? (cs : List Char) : Option (List Char) :=
  match skipComment (skipBlanks cs) with
  | [] => some []
  | cs => lineEnd? cs

def skipLines : (fuel : Nat) → List Char → List Char
  | 0, cs => cs
  | fuel + 1, cs =>
    let cs := skipBlanks cs
    match lineEnd? (skipComment cs) with
    | some rest => skipLines fuel rest
    | none => cs

def hexDigit? (c : Char) : Option Nat :=
  if c.isDigit then some (c.toNat - '0'.toNat)
  else if 'a' ≤ c && c ≤ 'f' then some (c.toNat - 'a'.toNat + 10)
  else if 'A' ≤ c && c ≤ 'F' then some (c.toNat - 'A'.toNat + 10)
  else none

/-- The character that `n` hexadecimal digits denote. -/
def codePoint (n : Nat) : Reader Char := fun cs => do
  let digits := cs.take n
  if digits.length < n then none
  let code ← digits.foldlM (fun code c => (hexDigit? c).map (code * 16 + ·)) 0
  if h : code.isValidChar then some (Char.ofNatAux code h, cs.drop n) else none

/-- The character that an escape stands for, read behind the backslash. -/
def escape : Reader Char
  | 'b' :: rest => some ('\x08', rest)
  | 'f' :: rest => some ('\x0c', rest)
  | 'n' :: rest => some ('\n', rest)
  | 'r' :: rest => some ('\r', rest)
  | 't' :: rest => some ('\t', rest)
  | '"' :: rest => some ('"', rest)
  | '\\' :: rest => some ('\\', rest)
  | 'u' :: rest => codePoint 4 rest
  | 'U' :: rest => codePoint 8 rest
  | _ => none

def basicString : (fuel : Nat) → (seen : List Char) → Reader String
  | 0, _, _ => none
  | _ + 1, _, [] => none
  | fuel + 1, seen, c :: rest =>
    if c == '"' then some (String.ofList seen.reverse, rest)
    else if c == '\\' then do
      let (c, rest) ← escape rest
      basicString fuel (c :: seen) rest
    else if isPlain c then basicString fuel (c :: seen) rest
    else none

def literalString (cs : List Char) : Option (String × List Char) :=
  let body := cs.takeWhile fun c => isPlain c && c != '\''
  match cs.drop body.length with
  | '\'' :: rest => some (String.ofList body, rest)
  | _ => none

def skipBlankLines : (fuel : Nat) → List Char → List Char
  | 0, cs => cs
  | fuel + 1, cs =>
    match lineEnd? (skipBlanks cs) with
    | some rest => skipBlankLines fuel rest
    | none => skipBlanks cs

/-- What is behind a backslash that joins lines: all blanks and line ends that follow it. -/
def joinLines? (cs : List Char) : Option (List Char) :=
  (lineEnd? (skipBlanks cs)).map fun rest => skipBlankLines rest.length rest

/-- The text of a string over several lines, up to three closing quotes; two more quotes may stand
right ahead of them. Only a basic string has escapes. -/
def multilineString (quote : Char) : (fuel : Nat) → (seen : List Char) → Reader String
  | 0, _, _ => none
  | _ + 1, _, [] => none
  | fuel + 1, seen, c :: rest =>
    if c == quote then
      let more := (rest.takeWhile (· == quote)).length
      if more < 2 then multilineString quote fuel (c :: seen) rest
      else if more ≤ 4 then
        some (String.ofList (List.replicate (more - 2) quote ++ seen).reverse, rest.drop more)
      else none
    else if c == '\\' && quote == '"' then
      match joinLines? rest with
      | some rest => multilineString quote fuel seen rest
      | none => do
        let (c, rest) ← escape rest
        multilineString quote fuel (c :: seen) rest
    else
      match lineEnd? (c :: rest) with
      | some rest => multilineString quote fuel ('\n' :: seen) rest
      | none => if isPlain c then multilineString quote fuel (c :: seen) rest else none

/-- A line end right behind the opening quotes is not part of the string. -/
def skipFirstLineEnd (cs : List Char) : List Char := (lineEnd? cs).getD cs

def string : Reader String
  | '"' :: '"' :: '"' :: rest => multilineString '"' (rest.length + 1) [] (skipFirstLineEnd rest)
  | '\'' :: '\'' :: '\'' :: rest =>
    multilineString '\'' (rest.length + 1) [] (skipFirstLineEnd rest)
  | '"' :: rest => basicString (rest.length + 1) [] rest
  | '\'' :: rest => literalString rest
  | _ => none

def isKeyChar (c : Char) : Bool := c.isAlphanum || c == '_' || c == '-'

/-- One part of a key, bare or quoted. -/
def simpleKey : Reader String
  | '"' :: rest => basicString (rest.length + 1) [] rest
  | '\'' :: rest => literalString rest
  | cs =>
    match cs.takeWhile isKeyChar with
    | [] => none
    | name => some (String.ofList name, cs.drop name.length)

/-- The parts of a dotted key, with blanks around each. -/
def keyParts : (fuel : Nat) → Reader (List String)
  | 0, _ => none
  | fuel + 1, cs => do
    let (first, rest) ← simpleKey (skipBlanks cs)
    match skipBlanks rest with
    | '.' :: rest => do
      let (others, rest) ← keyParts fuel rest
      some (first :: others, rest)
    | rest => some ([first], rest)

/-- The most that tables, arrays and keys may be nested, less one. -/
def nesting : Nat := 80

/-- A key: the path ahead of its last part, and that part. -/
def key : Reader (List String × String) := fun cs => do
  let (parts, rest) ← keyParts nesting cs
  if parts.length < nesting then
    some ((parts.dropLast, parts.getLast?.getD ""), rest)
  else none

end Parley.Toml

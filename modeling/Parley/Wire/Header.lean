import Parley.Transport

namespace Parley.Wire.Header

def isNameChar (c : Char) : Bool :=
  c.isAlphanum || "!#$%&'*+-.^_|~\x60".contains c

def isName (name : String) : Bool :=
  !name.isEmpty && name.all isNameChar && name.utf8ByteSize ≤ 65535

/-- No control character but the tab may stand in a value. -/
def isValueByte (b : UInt8) : Bool :=
  (32 ≤ b && b != 127) || b == 9

def isValue (value : String) : Bool :=
  (Bytes.ofString value).all isValueByte

/-- Only such values are ever put on the wire. -/
def isVisible (value : String) : Bool :=
  (Bytes.ofString value).all fun b => (32 ≤ b && b < 127) || b == 9

def trim (value : String) : String :=
  let blank := fun c => c == ' ' || c == '\t'
  String.ofList ((value.toList.dropWhile blank).reverse.dropWhile blank).reverse

/-- The size of a line: name, colon, blank, value and line end. -/
def lineSize (name value : String) : Nat :=
  name.utf8ByteSize + value.utf8ByteSize + 4

def linesSize (fields : List HeaderField) : Nat :=
  fields.foldr (fun f n => lineSize f.1 f.2 + n) 0

/-- The name that a subprotocol is offered and confirmed under. -/
def protocol : String := "sec-websocket-protocol"

def named (name : String) (f : HeaderField) : Bool :=
  f.1.toLower = name

end Parley.Wire.Header

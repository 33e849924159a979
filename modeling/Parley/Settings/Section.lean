import Parley.Bytes
import Parley.Toml.Document

namespace Parley.Settings

open Toml

/-- A section as it is looked up: by a setting's name and its place among the settings. -/
structure Section where
  get? : (name : String) → (place : Nat) → Option Value

namespace Section

def blank : Section := ⟨fun _ _ => none⟩

def ofValue : Value → Option Section
  | .table _ entries => some ⟨fun name _ => Entries.get? name entries⟩
  | .array items => some ⟨fun _ place => items[place]?⟩
  | .tables latest => some ⟨fun _ place => (latest.reverse[place]?).map (.table .header)⟩
  | .date => some blank
  | .string _ | .integer _ | .boolean _ | .float => none

/-- The section of a document that has this name; one that is missing gives nothing. -/
def find (document : Entries) (name : String) : Option Section :=
  match Entries.get? name document with
  | some v => ofValue v
  | none => some blank

/-- A setting read in one way, or its default. -/
def read {α : Type} (s : Section) (name : String) (place : Nat) (default : α)
    (decode : Value → Option α) : Option α :=
  match s.get? name place with
  | some v => decode v
  | none => some default

end Section

def asString : Value → Option String
  | .string s => some s
  | _ => none

def asNat : Value → Option Nat
  | .integer n => if 0 ≤ n then some n.toNat else none
  | _ => none

def asBool : Value → Option Bool
  | .boolean b => some b
  | _ => none

inductive Mode
  | echo
  | chat
  deriving DecidableEq, Repr

namespace Mode

def all : List Mode := [echo, chat]

def name : Mode → String
  | echo => "echo"
  | chat => "chat"

def ofName? : String → Option Mode
  | "echo" => some echo
  | "chat" => some chat
  | _ => none

/-- A mode is written as its name, or as a table with nothing under its name. -/
def ofValue? : Value → Option Mode
  | .string s => ofName? s
  | .table _ [(name, .table _ [])] | .table _ [(name, .array [])] => ofName? name
  | _ => none

end Mode

/-- The settings that a program goes by, and whether it refused a file. -/
structure Loaded (α : Type) where
  settings : α
  rejected : Bool
  deriving DecidableEq, Repr

/-- Settings from the bytes of a file. One that is missing or no text is passed over; one that is
no settings file is refused. In both cases the defaults hold. -/
def load {α : Type} (parse : String → Option α) (default : α) (file : Option Bytes) : Loaded α :=
  match file.bind Bytes.text? with
  | none => ⟨default, false⟩
  | some text =>
    match parse text with
    | some settings => ⟨settings, false⟩
    | none => ⟨default, true⟩

inductive Written
  | text (s : String)
  | count (n : Nat)
  | flag (b : Bool)

def Written.toString : Written → String
  | text s => "\"" ++ s ++ "\""
  | count n => ToString.toString n
  | flag b => ToString.toString b

/-- Sections as a file: a header and a line for each setting, with a blank line in between. -/
def render (sections : List (String × List (String × Written))) : String :=
  "\n".intercalate <| sections.map fun (name, settings) =>
    "[" ++ name ++ "]\n" ++
      String.join (settings.map fun (key, v) => key ++ " = " ++ v.toString ++ "\n")

end Parley.Settings

import Parley.Envelope.Codec

namespace Parley.Chat

open Envelope

def nameRequest : Bytes := Bytes.ofString "What is your name?"

def nameLead : Bytes := Bytes.ofString "My name is "

def greetingLead : Bytes := Bytes.ofString "Hello "

def joinNotice (nickname : String) : Message := ⟨"Input to chat room!", nickname⟩

def leaveNotice (nickname : String) : Message := ⟨"is leaving", nickname⟩

def introduction (nickname : String) : Bytes := nameLead ++ Bytes.ofString nickname

/-- The name that an answer gives, if it is one. -/
def introduced? (input : Bytes) : Option String :=
  (Bytes.after? nameLead input).bind Bytes.text?

/-- The words that a new member is received with, ahead of the history. -/
def greeting (nickname : String) : Bytes := greetingLead ++ Bytes.ofString nickname

end Parley.Chat

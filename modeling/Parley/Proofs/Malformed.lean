import Parley.Proofs.Grammar

namespace Parley.Envelope

/-- A record that cannot be read ends the reading where it starts. -/
theorem parseMessages_fails {read : List Message} {records : List Bytes}
    (h : List.Forall₂ Message.Spelled read records) {tail : Bytes} {cause : EnvelopeError}
    (ht : Message.parse tail = .error cause) {n : Nat} (hn : read.length < n) (consumed : Nat)
    (seen : List Message) :
    parseMessages n (records.flatten ++ tail) consumed seen =
      .error ⟨cause, consumed + records.flatten.length, seen.reverse ++ read⟩ := by
  induction h generalizing n consumed seen with
  | nil =>
    obtain ⟨n, rfl⟩ := Nat.exists_eq_add_one_of_ne_zero (Nat.ne_of_gt hn)
    simp [parseMessages, ht]
  | @cons m b read records hb _ ih =>
    obtain ⟨n, rfl⟩ := Nat.exists_eq_add_one_of_ne_zero (Nat.ne_of_gt (Nat.zero_lt_of_lt hn))
    rw [parseMessages, List.flatten_cons, List.append_assoc, Message.parse_complete hb]
    simp only [List.drop_left, ih (Nat.lt_of_succ_lt_succ hn)]
    simp [Nat.add_assoc]

/-- No envelope is read exactly where its header or one of the records that it announces cannot be
read. The first of them that cannot is what the error tells of: why, where it starts, and which
messages stand between the header and it. -/
theorem parse_locates_fault (input : Bytes) (e : ParseError) :
    parse input = .error e ↔
      e.consumed ≤ input.length ∧
        ((e.consumed = 0 ∧ e.messages = [] ∧ Header.parse input = .error e.cause) ∨
          ∃ header lead records, Header.parse input = .ok ⟨header, lead.length⟩ ∧
            header.Spelled lead ∧ e.messages.length < header.count ∧
            List.Forall₂ Message.Spelled e.messages records ∧
            input.take e.consumed = lead ++ records.flatten ∧
            Message.parse (input.drop e.consumed) = .error e.cause) := by
  constructor
  · intro h
    unfold parse at h
    split at h
    · rename_i taken hh
      obtain ⟨lead, rest, spelled, rfl, hu⟩ := Header.parse_sound hh
      rw [hu, List.drop_left] at h
      obtain ⟨read, records, tail, all, rfl, ⟨-, result⟩ | ⟨short, cause, fault, result⟩⟩ :=
        parseMessages_reads taken.value.count rest lead.length []
      · cases result.symm.trans h
      · cases result.symm.trans h
        have header := Header.parse_complete spelled (records.flatten ++ tail)
        rw [← List.append_assoc] at header ⊢
        dsimp only
        rw [← List.length_append, List.take_left, List.drop_left]
        exact ⟨by simp, .inr ⟨taken.value, lead, records, header, spelled, short, all, rfl, fault⟩⟩
    · rename_i cause hh
      cases h
      exact ⟨Nat.zero_le _, .inl ⟨rfl, rfl, hh⟩⟩
  · obtain ⟨cause, consumed, messages⟩ := e
    rintro ⟨within, ⟨rfl, rfl, hh⟩ | ⟨header, lead, records, -, spelled, short, all, front, fault⟩⟩
    · simp only [parse, hh]
    · dsimp only at within short all front fault
      have place : consumed = lead.length + records.flatten.length := by
        rw [← List.length_append, ← front, List.length_take_of_le within]
      have split : input = lead ++ (records.flatten ++ input.drop consumed) := by
        rw [← List.append_assoc, ← front, List.take_append_drop]
      rw [split, parse, Header.parse_complete spelled]
      dsimp only
      rw [List.drop_left, parseMessages_fails all fault short, ← place]
      rfl

/-- Two of three announced messages are read, and the third is found not to be one. -/
example : parse (Bytes.ofString "inv:3:message:2:Ann:himessage:02:Bob:yomsg:2:Cy:no") =
    .error ⟨.wrongLiteral, 39, [⟨"hi", "Ann"⟩, ⟨"yo", "Bob"⟩]⟩ := by
  decide +kernel

end Parley.Envelope

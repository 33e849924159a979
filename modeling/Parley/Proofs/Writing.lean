import Parley.Proofs.Canonical

namespace Parley.Envelope

/-- Whatever stands behind its record, a message is read back from there only if it is valid. -/
theorem Message.survives_iff (m : Message) (rest : Bytes) :
    parse (m.encode ++ rest) = .ok ⟨m, m.encode.length⟩ ↔ m.validate = .ok () := by
  constructor
  · intro h
    obtain ⟨b, -, spelled, -, -⟩ := parse_sound h
    exact spelled.validate
  · intro h
    exact parse_complete (encode_spelled h) rest

theorem encode_ok_iff {ms : List Message} :
    (∃ written, encode ms = .ok written) ↔
      1 ≤ ms.length ∧ ms.length ≤ maxLength ∧ ∀ m ∈ ms, m.validate = .ok () := by
  constructor
  · rintro ⟨written, h⟩
    obtain ⟨header, hv, -⟩ := bind_eq_ok_iff.mp h
    exact (validate_ok hv).2
  · rintro ⟨hpos, hl, valid⟩
    exact ⟨_, encode_ok hpos hl valid⟩

theorem write_encoded {ms : List Message} {written : Bytes} (h : encode ms = .ok written)
    (buffer : Bytes) :
    (write ms).run.run buffer = (.ok written.length, buffer ++ written) := by
  simp only [write, h]
  rfl

/-- The list is checked before anything is put into the buffer. -/
theorem write_refused {ms : List Message} {e : EnvelopeError} (h : encode ms = .error e)
    (buffer : Bytes) : (write ms).run.run buffer = (.error e, buffer) := by
  simp only [write, h]
  rfl

/-- A message is valid exactly if its record is read as that message and in full, whatever stands
behind it. Messages are written into a buffer exactly if there are some, not more than a header can
count, and all are valid. Then their envelope stands behind what the buffer held, and its length is
what is returned; if not, the buffer holds what it held. -/
theorem validates_what_survives :
    (∀ (m : Message) (rest : Bytes),
      m.validate = .ok () ↔ Message.parse (m.encode ++ rest) = .ok ⟨m, m.encode.length⟩) ∧
    ∀ (ms : List Message) (buffer : Bytes),
      let (result, buffer') := (write ms).run.run buffer
      ((∃ n, result = .ok n) ↔
          1 ≤ ms.length ∧ ms.length ≤ maxLength ∧ ∀ m ∈ ms, m.validate = .ok ()) ∧
        (∀ n, result = .ok n →
          ∃ written, encode ms = .ok written ∧ buffer' = buffer ++ written ∧ n = written.length) ∧
        ∀ e, result = .error e → encode ms = .error e ∧ buffer' = buffer := by
  refine ⟨fun m rest => (m.survives_iff rest).symm, ?_⟩
  intro ms buffer
  rw [← encode_ok_iff]
  cases h : encode ms with
  | ok written =>
    rw [write_encoded h]
    refine ⟨by simp, ?_, by rintro e ⟨⟩⟩
    rintro n ⟨⟩
    exact ⟨written, rfl, rfl, rfl⟩
  | error e =>
    rw [write_refused h]
    refine ⟨by simp, by rintro n ⟨⟩, ?_⟩
    rintro e ⟨⟩
    exact ⟨rfl, rfl⟩

/-- A list with one message that is not valid is not written at all. -/
example : (write [⟨"ok", "Ann"⟩, ⟨"", "Ann"⟩]).run.run (Bytes.ofString "Hello Ann") =
    (.error .payloadEmpty, Bytes.ofString "Hello Ann") :=
  rfl

end Parley.Envelope

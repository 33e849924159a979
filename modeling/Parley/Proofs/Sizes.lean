import Mathlib.Algebra.GroupWithZero.Nat
import Parley.Envelope.Codec

namespace Parley

theorem Bytes.ofString_append (s t : String) : ofString (s ++ t) = ofString s ++ ofString t := by
  simp [ofString]

namespace Decimal

theorem ofString_digit {n : Nat} (h : n < 10) : Bytes.ofString (toString n) = [digit n] := by
  have digits : ∀ d : Fin 10, Bytes.ofString (toString d.val) = [digit d] := by decide +kernel
  exact digits ⟨n, h⟩

/-- The decimal text of a number is the one it has everywhere. -/
theorem text_eq_ofString (n : Nat) : text n = Bytes.ofString (toString n) := by
  induction n using text.induct with
  | case1 n small => rw [text, if_pos small, ofString_digit small]
  | case2 n large ih =>
    have split : toString n = toString (n / 10) ++ toString (n % 10) :=
      Nat.repr_eq_repr_append_repr (Nat.le_of_not_lt large)
    rw [text, if_neg large, ih, split, Bytes.ofString_append,
      ofString_digit (Nat.mod_lt n (by decide))]

theorem length_text (n : Nat) : (text n).length = width n := by
  induction n using text.induct with
  | case1 n small => rw [text, if_pos small, width, if_pos small, List.length_singleton]
  | case2 n large ih =>
    rw [text, if_neg large, width, if_neg large, List.length_append, ih, List.length_singleton]

end Decimal

namespace Envelope

/-- Whatever a buffer holds, these bytes are put behind it and this is what is returned. -/
def Writes {α : Type} (writing : StateM Bytes α) (a : α) (written : Bytes) : Prop :=
  ∀ buffer, writing.run buffer = (a, buffer ++ written)

namespace Writes

variable {α β : Type} {writing : StateM Bytes α} {a : α} {written : Bytes}

theorem put (b : Bytes) : Writes (put b) () b := fun _ => rfl

theorem bind (h : Writes writing a written) {f : α → StateM Bytes β} {b : β} {written' : Bytes}
    (hf : Writes (f a) b written') : Writes (writing >>= f) b (written ++ written') := by
  intro buffer
  change (f (writing.run buffer).1).run (writing.run buffer).2 = _
  rw [h buffer, hf, List.append_assoc]

theorem discard (h : Writes writing a written) : Writes (discard writing) () written := by
  intro buffer
  change ((), (writing.run buffer).2) = _
  rw [h buffer]

theorem counted {writing : StateM Bytes Unit} (h : Writes writing () written) :
    Writes (counted writing) written.length written := by
  intro buffer
  change ((writing.run buffer).2.length - buffer.length, (writing.run buffer).2) = _
  rw [h buffer, List.length_append, Nat.add_sub_cancel_left]

theorem forM {f : α → StateM Bytes Unit} {g : α → Bytes} (h : ∀ a, Writes (f a) () (g a))
    (as : List α) : Writes (as.forM f) () (as.flatMap g) := by
  induction as with
  | nil =>
    intro buffer
    rw [List.flatMap_nil, List.append_nil]
    rfl
  | cons a as ih =>
    rw [List.flatMap_cons]
    exact (h a).bind ih

end Writes

namespace Header

theorem length_encode (h : Header) : h.encode.length = h.size := by
  simp only [encode, size, ← Decimal.length_text, List.length_append, List.length_cons,
    List.length_nil]
  omega

theorem writes (h : Header) : Writes h.write h.size h.encode := by
  -- bracketed as the fields are put
  have fields : h.encode = word ++ ([colon] ++ (Decimal.text h.count ++ [colon])) := by
    simp [encode]
  rw [← h.length_encode, fields]
  exact .counted ((Writes.put _).bind ((Writes.put _).bind ((Writes.put _).bind (.put _))))

end Header

namespace Message

theorem length_encode (m : Message) : m.encode.length = m.size := by
  simp only [encode, size, ← Decimal.length_text, List.length_append, List.length_cons]
  omega

theorem writes (m : Message) : Writes m.write m.size m.encode := by
  have fields : m.encode = word ++ ([colon] ++ (Decimal.text (Bytes.ofString m.payload).length ++
      ([colon] ++ (Bytes.ofString m.nickname ++ ([colon] ++ Bytes.ofString m.payload))))) := by
    simp [encode]
  rw [← m.length_encode, fields]
  exact .counted <| (Writes.put _).bind <| (Writes.put _).bind <| (Writes.put _).bind <|
    (Writes.put _).bind <| (Writes.put _).bind <| (Writes.put _).bind <| .put _

end Message

theorem writeRecords_writes (header : Header) (ms : List Message) :
    Writes (writeRecords header ms) () (header.encode ++ ms.flatMap Message.encode) :=
  header.writes.discard.bind (.forM (fun m => m.writes.discard) ms)

theorem length_records (ms : List Message) :
    (ms.flatMap Message.encode).length = (ms.map Message.size).sum := by
  rw [List.length_flatMap]
  simp only [Message.length_encode]

/-- The size of a record is told exactly, whether it could be read back or not: in any buffer it
takes up so many bytes, behind all that was there, and that is what is returned. A number is as wide
as its decimal text is long. The envelope of messages that are accepted is what its records put
into a buffer one after the other, so its length is the sum of their sizes. -/
theorem sizes_exact :
    (∀ n, Decimal.width n = (Decimal.text n).length ∧
      Decimal.text n = Bytes.ofString (toString n)) ∧
    (∀ (h : Header) (buffer : Bytes),
      h.write.run buffer = (h.size, buffer ++ h.encode) ∧ h.encode.length = h.size) ∧
    (∀ (m : Message) (buffer : Bytes),
      m.write.run buffer = (m.size, buffer ++ m.encode) ∧ m.encode.length = m.size) ∧
    ∀ (ms : List Message) (buffer : Bytes),
      match validate ms with
      | .ok header => ∃ written, encode ms = .ok written ∧
          (writeRecords header ms).run buffer = ((), buffer ++ written) ∧
          written.length = header.size + (ms.map Message.size).sum
      | .error e => encode ms = .error e := by
  refine ⟨fun n => ⟨(Decimal.length_text n).symm, Decimal.text_eq_ofString n⟩,
    fun h buffer => ⟨h.writes buffer, h.length_encode⟩,
    fun m buffer => ⟨m.writes buffer, m.length_encode⟩, ?_⟩
  intro ms buffer
  unfold encode
  cases validate ms with
  | error e => rfl
  | ok header =>
    refine ⟨_, rfl, writeRecords_writes header ms buffer, ?_⟩
    rw [List.length_append, header.length_encode, length_records]

end Envelope

end Parley

import Parley.Proofs.Grammar

namespace Parley

theorem Bytes.length_ofString_pos_iff {s : String} :
    0 < (ofString s).length ↔ ¬s.isEmpty = true := by
  rw [Nat.pos_iff_ne_zero, ne_eq, not_iff_not]
  constructor
  · intro hz
    rw [String.isEmpty_iff, ← String.toByteArray_inj]
    exact ByteArray.ext (Array.toList_eq_nil_iff.mp (List.eq_nil_of_length_eq_zero hz))
  · intro he
    rw [String.isEmpty_iff.mp he]
    rfl

namespace Decimal

theorem text_ne_nil (n : Nat) : text n ≠ [] := by
  rw [text]
  split <;> simp

theorem toNat_digit {d : Nat} (h : d < 10) : (digit d).toNat = 48 + d := by
  rw [digit, UInt8.toNat_ofNat']
  omega

theorem toNat_of_mem_text {n : Nat} {d : UInt8} (h : d ∈ text n) : 48 ≤ d.toNat ∧ d.toNat ≤ 57 := by
  induction n using text.induct with
  | case1 n hn =>
    rw [text, if_pos hn, List.mem_singleton] at h
    rw [h, toNat_digit hn]
    omega
  | case2 n hn ih =>
    rw [text, if_neg hn, List.mem_append, List.mem_singleton] at h
    rcases h with h | rfl
    · exact ih h
    · rw [toNat_digit (Nat.mod_lt n (by omega))]
      omega

theorem ofDigits_text (n : Nat) :
    Nat.ofDigits 10 ((text n).reverse.map fun d => d.toNat - 48) = n := by
  induction n using text.induct with
  | case1 n hn =>
    rw [text, if_pos hn]
    simp [toNat_digit hn]
  | case2 n hn ih =>
    rw [text, if_neg hn, List.reverse_append, List.reverse_singleton, List.singleton_append,
      List.map_cons, Nat.ofDigits_cons, ih, toNat_digit (Nat.mod_lt n (by omega))]
    omega

end Decimal

namespace Envelope

theorem numeral_text {n : Nat} (h : n ≤ maxLength) : Numeral (Decimal.text n) n := by
  have size : maxLength = 2 ^ 32 - 1 := rfl
  exact ⟨Decimal.text_ne_nil n, fun _ hd => Decimal.toNat_of_mem_text hd, Decimal.ofDigits_text n,
    by omega⟩

theorem Header.encode_spelled {h : Header} (hpos : 0 < h.count) (hm : h.count ≤ maxLength) :
    h.Spelled h.encode :=
  ⟨_, numeral_text hm, hpos, rfl⟩

theorem Message.validate_eq_ok_iff {m : Message} :
    m.validate = .ok () ↔ 0 < (Bytes.ofString m.payload).length ∧
      colon ∉ Bytes.ofString m.nickname ∧ (Bytes.ofString m.payload).length ≤ maxLength := by
  rw [Bytes.length_ofString_pos_iff, ← Nat.not_lt, ← List.contains_iff_mem]
  unfold validate
  split_ifs <;> simp_all

theorem Message.encode_spelled {m : Message} (h : m.validate = .ok ()) : m.Spelled m.encode := by
  obtain ⟨filled, named, short⟩ := validate_eq_ok_iff.mp h
  exact ⟨_, numeral_text short, filled, named, rfl⟩

theorem validate_of_forM {ms : List Message} (h : ms.forM Message.validate = .ok ()) :
    ∀ m ∈ ms, m.validate = .ok () := by
  induction ms with
  | nil => simp
  | cons m ms ih =>
    obtain ⟨_, hm, hms⟩ := bind_eq_ok_iff.mp h
    exact List.forall_mem_cons.mpr ⟨hm, ih hms⟩

theorem validate_ok {ms : List Message} {h : Header} (hv : validate ms = .ok h) :
    h = ⟨ms.length⟩ ∧ 0 < ms.length ∧ ms.length ≤ maxLength ∧ ∀ m ∈ ms, m.validate = .ok () := by
  unfold validate at hv
  split at hv
  · cases hv
  rename_i hn
  split at hv
  · cases hv
  rename_i hl
  obtain ⟨_, hm, hh⟩ := bind_eq_ok_iff.mp hv
  cases hh
  exact ⟨rfl, List.length_pos_iff.mpr (by simpa using hn), Nat.le_of_not_lt hl, validate_of_forM hm⟩

theorem encode_spelled {ms : List Message} {b : Bytes} (h : encode ms = .ok b) : Spelled ms b := by
  obtain ⟨header, hv, hb⟩ := bind_eq_ok_iff.mp h
  cases hb
  obtain ⟨rfl, hpos, hm, valid⟩ := validate_ok hv
  refine ⟨_, ms.map Message.encode, Header.encode_spelled hpos hm, ?_, by rw [List.flatMap_def]⟩
  rw [List.forall₂_map_right_iff, List.forall₂_same]
  exact fun m hm => Message.encode_spelled (valid m hm)

theorem Spelled.ne_nil {ms : List Message} {b : Bytes} (h : Spelled ms b) : b ≠ [] := by
  obtain ⟨lead, records, ⟨digits, -, -, rfl⟩, -, rfl⟩ := h
  simp

namespace Walk

/-- A walk after so many calls of `next`. -/
def after (k : Nat) (w : Walk) : Walk := (fun w => w.next.2)^[k] w

theorem after_succ (k : Nat) (w : Walk) : w.after (k + 1) = (w.after k).next.2 :=
  Function.iterate_succ_apply' _ _ _

theorem next_spelled {ms : List Message} {b rest : Bytes} (h : Spelled ms b) {w : Walk}
    (hf : w.failed = false) (hi : w.input.drop w.offset = b ++ rest) :
    w.next = (some (.ok ms), { w with offset := w.offset + b.length }) := by
  have more : ¬ w.input.length ≤ w.offset := by
    intro hle
    rw [List.drop_eq_nil_of_le hle] at hi
    exact h.ne_nil (List.append_eq_nil_iff.mp hi.symm).1
  unfold next
  simp only [hf, Bool.false_or, decide_eq_true_eq, if_neg more, hi, parse_complete h]

theorem next_over {w : Walk} (h : w.input.drop w.offset = []) : w.next = (none, w) := by
  unfold next
  simp [List.drop_eq_nil_iff.mp h]

theorem next_end {w : Walk} (h : w.offset = w.input.length) : w.next = (none, w) :=
  next_over (List.drop_eq_nil_of_le (Nat.le_of_eq h.symm))

theorem steps_ended {w : Walk} (h : w.next.1 = none) (fuel : Nat) : steps fuel w = [] := by
  cases fuel with
  | zero => rfl
  | succ fuel =>
    have step : w.next = (none, w.next.2) := Prod.ext h rfl
    rw [steps, step]

theorem steps_next {w : Walk} {item : Except ParseError (List Message)} (h : w.next.1 = some item)
    (fuel : Nat) : steps (fuel + 1) w = (item, w.next.2) :: steps fuel w.next.2 := by
  have step : w.next = (some item, w.next.2) := Prod.ext h rfl
  rw [steps, step]

/-- A walk that is behind `k` of the envelopes that stand back to back in its input. -/
def behind (envelopes : List Bytes) (suffix : Bytes) (k : Nat) : Walk :=
  { input := envelopes.flatten ++ suffix, offset := (envelopes.take k).flatten.length }

section

variable {batches : List (List Message)} {envelopes : List Bytes}
  (h : List.Forall₂ Spelled batches envelopes) (suffix : Bytes) {k : Nat}

include h

theorem next_behind (hk : k < batches.length) :
    (behind envelopes suffix k).next =
      (some (.ok batches[k]), behind envelopes suffix (k + 1)) := by
  have hk' : k < envelopes.length := h.length_eq ▸ hk
  have spelled : Spelled batches[k] envelopes[k] := h.get hk hk'
  have rest : (envelopes.flatten ++ suffix).drop (envelopes.take k).flatten.length =
      envelopes[k] ++ ((envelopes.drop (k + 1)).flatten ++ suffix) := by
    have split : envelopes.flatten = (envelopes.take k).flatten ++ (envelopes.drop k).flatten := by
      rw [← List.flatten_append, List.take_append_drop]
    rw [split, List.append_assoc, List.drop_left, List.drop_eq_getElem_cons hk', List.flatten_cons,
      List.append_assoc]
  have length : (envelopes.take (k + 1)).flatten.length =
      (envelopes.take k).flatten.length + envelopes[k].length := by
    rw [List.take_succ_eq_append_getElem hk', List.flatten_append, List.length_append]
    simp
  rw [next_spelled spelled rfl rest]
  simp only [behind, length]

theorem after_start (hk : k ≤ batches.length) :
    (start (envelopes.flatten ++ suffix)).after k = behind envelopes suffix k := by
  induction k with
  | zero => rfl
  | succ k ih => rw [after_succ, ih (Nat.le_of_succ_le hk), next_behind h suffix hk]

end

/-- A walk over encodings yields what was encoded, batch by batch, and its offset keeps count of
their lengths; it ends with them if nothing stands behind. -/
theorem walk_over_encodings {batches : List (List Message)} {encodings : List Bytes}
    (h : List.Forall₂ (fun ms b => encode ms = .ok b) batches encodings) (suffix : Bytes) :
    (∀ k, ∀ hk : k < batches.length,
      ((start (encodings.flatten ++ suffix)).after k).next.1 = some (.ok batches[k]) ∧
        ((start (encodings.flatten ++ suffix)).after (k + 1)).offset =
          (encodings.take (k + 1)).flatten.length) ∧
      ((start encodings.flatten).after batches.length).next.1 = none ∧
      ∀ ms b, encode ms = .ok b → parse (b ++ suffix) = .ok ⟨ms, b.length⟩ := by
  have spelled : List.Forall₂ Spelled batches encodings := h.imp fun _ _ => encode_spelled
  refine ⟨fun k hk => ⟨?_, ?_⟩, ?_, fun ms b hb => parse_complete (encode_spelled hb) suffix⟩
  · rw [after_start spelled suffix (Nat.le_of_lt hk), next_behind spelled suffix hk]
  · rw [after_start spelled suffix hk]
    rfl
  · have last := after_start spelled [] (Nat.le_refl _)
    rw [List.append_nil] at last
    rw [last, next_end]
    simp [behind, h.length_eq]

/-- Two batches, of which the payloads look like what is around them. -/
def chatter : List (List Message) :=
  [[⟨"Hi!!!", "Ann"⟩, ⟨"12:é", ""⟩], [⟨"inv:1:", "Bob"⟩]]

def writtenChatter : List Bytes :=
  [Bytes.ofString "inv:2:message:5:Ann:Hi!!!message:5::12:é",
    Bytes.ofString "inv:1:message:6:Bob:inv:1:"]

theorem walk_over_chatter :
    List.Forall₂ (fun ms b => encode ms = .ok b) chatter writtenChatter ∧
      ((start (writtenChatter.flatten ++ Bytes.ofString "inv:1")).after 1).next.1 =
        some (.ok [⟨"inv:1:", "Bob"⟩]) ∧
      ((start (writtenChatter.flatten ++ Bytes.ofString "inv:1")).after 2).offset = 67 ∧
      ((start writtenChatter.flatten).after 2).next.1 = none := by
  have encoded : List.Forall₂ (fun ms b => encode ms = .ok b) chatter writtenChatter :=
    .cons (by decide +kernel) (.cons (by decide +kernel) .nil)
  have walked := walk_over_encodings encoded (Bytes.ofString "inv:1")
  have second := walked.1 1 (by decide)
  exact ⟨encoded, second.1, second.2.trans (by decide +kernel), walked.2.1⟩

end Walk

end Envelope

end Parley

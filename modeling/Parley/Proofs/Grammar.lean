import Mathlib.Data.List.Forall2
import Mathlib.Data.List.Induction
import Mathlib.Data.Nat.Digits.Defs
import Parley.Envelope.Codec

namespace Parley

namespace Bytes

theorem text?_eq_some_iff {b : Bytes} {s : String} : text? b = some s ↔ b = ofString s := by
  unfold text? ofString String.fromUTF8?
  constructor
  · intro h
    split at h
    · cases h
      rfl
    · cases h
  · rintro rfl
    have valid : (⟨s.toUTF8.data.toList.toArray⟩ : ByteArray).IsValidUTF8 := by
      simpa using s.isValidUTF8
    rw [dif_pos valid]
    rfl

theorem upTo?_eq_some_iff {stop : UInt8} {b lead : Bytes} :
    upTo? stop b = some lead ↔ stop ∉ lead ∧ ∃ rest, b = lead ++ stop :: rest := by
  unfold upTo?
  constructor
  · intro h
    split at h
    · rename_i hm
      obtain ⟨before, rest, rfl, hn⟩ := List.eq_append_cons_of_mem (List.contains_iff_mem.mp hm)
      have pass : ∀ x ∈ before, (x != stop) = true := by
        intro x hx
        exact bne_iff_ne.mpr fun he => hn (he ▸ hx)
      rw [List.takeWhile_append_of_pos pass, List.takeWhile_cons_of_neg (by simp)] at h
      simp only [List.append_nil, Option.some.injEq] at h
      subst h
      exact ⟨hn, rest, rfl⟩
    · cases h
  · rintro ⟨hn, rest, rfl⟩
    have pass : ∀ x ∈ lead, (x != stop) = true := by
      intro x hx
      exact bne_iff_ne.mpr fun he => hn (he ▸ hx)
    rw [if_pos (by simp), List.takeWhile_append_of_pos pass, List.takeWhile_cons_of_neg (by simp),
      List.append_nil]

end Bytes

theorem Decimal.value_eq_ofDigits (b : Bytes) :
    value b = Nat.ofDigits 10 (b.reverse.map fun d => d.toNat - 48) := by
  induction b using List.reverseRecOn with
  | nil => rfl
  | append_singleton b d ih =>
    have last : value (b ++ [d]) = value b * 10 + digitValue d := by simp [value]
    rw [last, ih, List.reverse_append, List.reverse_singleton, List.singleton_append, List.map_cons,
      Nat.ofDigits_cons, digitValue]
    simp [Nat.mul_comm, Nat.add_comm]

namespace Envelope

/-- How a number of 32 bits is written: in one or more decimal digits, which may start with
zeros. -/
structure Numeral (digits : Bytes) (n : Nat) : Prop where
  nonempty : digits ≠ []
  digit : ∀ d ∈ digits, 48 ≤ d.toNat ∧ d.toNat ≤ 57
  value : Nat.ofDigits 10 (digits.reverse.map fun d => d.toNat - 48) = n
  bounded : n < 2 ^ 32

/-- How a header is written. -/
def Header.Spelled (h : Header) (b : Bytes) : Prop :=
  ∃ digits, Numeral digits h.count ∧ 0 < h.count ∧ b = Bytes.ofString "inv:" ++ digits ++ [colon]

/-- How a message is written. The nickname ends at the colon behind it and so has none; the payload
is as long as it is announced. -/
def Message.Spelled (m : Message) (b : Bytes) : Prop :=
  ∃ digits, Numeral digits (Bytes.ofString m.payload).length ∧
    0 < (Bytes.ofString m.payload).length ∧ colon ∉ Bytes.ofString m.nickname ∧
    b = Bytes.ofString "message:" ++ digits ++ colon :: Bytes.ofString m.nickname ++
      colon :: Bytes.ofString m.payload

/-- How one envelope that holds these messages is written. -/
def Spelled (ms : List Message) (b : Bytes) : Prop :=
  ∃ lead records, Header.Spelled ⟨ms.length⟩ lead ∧ List.Forall₂ Message.Spelled ms records ∧
    b = lead ++ records.flatten

theorem bind_eq_ok_iff {ε α β : Type} {x : Except ε α} {f : α → Except ε β} {b : β} :
    (x >>= f) = .ok b ↔ ∃ a, x = .ok a ∧ f a = .ok b := by
  cases x <;> simp [bind, Except.bind]

theorem literal_eq_ok_iff {word input : Bytes} {n : Nat} :
    literal word input = .ok n ↔ n = word.length + 1 ∧ ∃ rest, input = word ++ colon :: rest := by
  unfold literal Bytes.after?
  constructor
  · intro h
    by_cases hw : word.isPrefixOf input = true
    · obtain ⟨tail, rfl⟩ := List.isPrefixOf_iff_prefix.mp hw
      simp only [hw, if_true, List.drop_left] at h
      split at h <;> cases h
      rename_i hc
      obtain ⟨rest, rfl⟩ := List.head?_eq_some_iff.mp hc
      exact ⟨rfl, rest, rfl⟩
    · simp [hw] at h
  · rintro ⟨rfl, rest, rfl⟩
    simp

theorem isDigit_iff {d : UInt8} : Decimal.isDigit d = true ↔ 48 ≤ d.toNat ∧ d.toNat ≤ 57 := by
  simp [Decimal.isDigit, UInt8.le_iff_toNat_le]

theorem Numeral.no_colon {digits : Bytes} {n : Nat} (h : Numeral digits n) : colon ∉ digits := by
  intro hm
  have := (h.digit colon hm).2
  simp [colon] at this

theorem numeral_iff {digits : Bytes} {n : Nat} :
    Numeral digits n ↔ Decimal.value? digits = some n ∧ n ≤ maxLength := by
  have size : maxLength = 2 ^ 32 - 1 := rfl
  unfold Decimal.value?
  constructor
  · intro h
    have digit : digits.all Decimal.isDigit = true :=
      List.all_eq_true.mpr fun d hd => isDigit_iff.mpr (h.digit d hd)
    have := h.bounded
    rw [if_pos ⟨h.nonempty, digit⟩, Decimal.value_eq_ofDigits, h.value]
    exact ⟨rfl, by omega⟩
  · rintro ⟨hv, hb⟩
    split at hv
    · rename_i hd
      cases hv
      exact ⟨hd.1, fun d hm => isDigit_iff.mp (List.all_eq_true.mp hd.2 d hm),
        (Decimal.value_eq_ofDigits digits).symm, by omega⟩
    · cases hv

theorem lengthField_eq_ok_iff {input : Bytes} {n used : Nat} :
    lengthField input = .ok ⟨n, used⟩ ↔
      ∃ digits rest, Numeral digits n ∧ input = digits ++ colon :: rest ∧
        used = digits.length + 1 := by
  unfold lengthField
  constructor
  · intro h
    split at h
    · cases h
    · rename_i digits hd
      obtain ⟨-, rest, rfl⟩ := Bytes.upTo?_eq_some_iff.mp hd
      split at h
      · cases h
      · rename_i n' hv
        split at h <;> cases h
        rename_i hb
        exact ⟨digits, rest, numeral_iff.mpr ⟨hv, hb⟩, rfl, rfl⟩
  · rintro ⟨digits, rest, hn, rfl, rfl⟩
    obtain ⟨hv, hb⟩ := numeral_iff.mp hn
    simp [Bytes.upTo?_eq_some_iff.mpr ⟨hn.no_colon, rest, rfl⟩, hv, hb]

theorem textField_eq_ok_iff {b : Bytes} {s : String} :
    textField b = .ok s ↔ b = Bytes.ofString s := by
  rw [← Bytes.text?_eq_some_iff]
  unfold textField
  split <;> simp_all

theorem drop_field (a rest : Bytes) : (a ++ colon :: rest).drop (a.length + 1) = rest := by
  rw [List.append_cons, List.drop_left' (by simp)]

theorem drop_two_fields (a b rest : Bytes) :
    (a ++ colon :: (b ++ colon :: rest)).drop (a.length + 1 + (b.length + 1)) = rest := by
  rw [← List.drop_drop, drop_field, drop_field]

theorem drop_three_fields (a b c rest : Bytes) :
    (a ++ colon :: (b ++ colon :: (c ++ colon :: rest))).drop
      (a.length + 1 + (b.length + 1) + c.length + 1) = rest := by
  rw [Nat.add_assoc _ c.length, ← List.drop_drop, drop_two_fields, drop_field]

namespace Header

theorem spelled_append (digits rest : Bytes) :
    Bytes.ofString "inv:" ++ digits ++ [colon] ++ rest =
      word ++ colon :: (digits ++ colon :: rest) := by
  rw [List.append_assoc, List.append_assoc]
  rfl

theorem parse_sound {input : Bytes} {h : Header} {used : Nat} (hp : parse input = .ok ⟨h, used⟩) :
    ∃ b rest, h.Spelled b ∧ input = b ++ rest ∧ used = b.length := by
  obtain ⟨lead, hl, hp⟩ := bind_eq_ok_iff.mp hp
  obtain ⟨⟨n, k⟩, hn, hp⟩ := bind_eq_ok_iff.mp hp
  obtain ⟨rfl, rest, rfl⟩ := literal_eq_ok_iff.mp hl
  rw [drop_field] at hn
  obtain ⟨digits, rest, numeral, rfl, rfl⟩ := lengthField_eq_ok_iff.mp hn
  dsimp only at hp
  split at hp
  · cases hp
  · rename_i hz
    cases hp
    refine ⟨_, rest, ⟨digits, numeral, Nat.pos_of_ne_zero hz, rfl⟩,
      (spelled_append digits rest).symm, ?_⟩
    have := congrArg List.length (spelled_append digits [])
    simp only [List.length_append, List.length_cons, List.length_nil] at this ⊢
    omega

theorem parse_complete {h : Header} {b : Bytes} (hb : h.Spelled b) (rest : Bytes) :
    parse (b ++ rest) = .ok ⟨h, b.length⟩ := by
  obtain ⟨digits, numeral, hpos, rfl⟩ := hb
  have count : lengthField ((word ++ colon :: (digits ++ colon :: rest)).drop (word.length + 1)) =
      .ok ⟨h.count, digits.length + 1⟩ := by
    rw [drop_field]
    exact lengthField_eq_ok_iff.mpr ⟨digits, rest, numeral, rfl, rfl⟩
  rw [spelled_append]
  refine bind_eq_ok_iff.mpr ⟨_, literal_eq_ok_iff.mpr ⟨rfl, _, rfl⟩, ?_⟩
  refine bind_eq_ok_iff.mpr ⟨_, count, ?_⟩
  rw [if_neg (Nat.ne_of_gt hpos)]
  have := congrArg List.length (spelled_append digits [])
  simp only [List.length_append, List.length_cons, List.length_nil] at this ⊢
  congr 2

end Header

namespace Message

theorem spelled_append (digits name payload rest : Bytes) :
    Bytes.ofString "message:" ++ digits ++ colon :: name ++ colon :: payload ++ rest =
      word ++ colon :: (digits ++ colon :: (name ++ colon :: (payload ++ rest))) := by
  simp only [List.append_assoc, List.cons_append]
  rfl

theorem spelled_length (digits name payload : Bytes) :
    (Bytes.ofString "message:" ++ digits ++ colon :: name ++ colon :: payload).length =
      word.length + 1 + (digits.length + 1) + name.length + 1 + payload.length := by
  have := congrArg List.length (spelled_append digits name payload [])
  simp only [List.length_append, List.length_cons, List.length_nil] at this ⊢
  omega

theorem parse_sound {input : Bytes} {m : Message} {used : Nat} (hp : parse input = .ok ⟨m, used⟩) :
    ∃ b rest, m.Spelled b ∧ input = b ++ rest ∧ used = b.length := by
  obtain ⟨lead, hl, hp⟩ := bind_eq_ok_iff.mp hp
  obtain ⟨⟨n, k⟩, hn, hp⟩ := bind_eq_ok_iff.mp hp
  obtain ⟨rfl, rest, rfl⟩ := literal_eq_ok_iff.mp hl
  rw [drop_field] at hn
  obtain ⟨digits, rest, numeral, rfl, rfl⟩ := lengthField_eq_ok_iff.mp hn
  simp only [drop_two_fields] at hp
  split at hp
  · cases hp
  rename_i hz
  split at hp
  · cases hp
  rename_i name hname
  obtain ⟨hc, rest, rfl⟩ := Bytes.upTo?_eq_some_iff.mp hname
  obtain ⟨nickname, ht, hp⟩ := bind_eq_ok_iff.mp hp
  simp only [drop_three_fields] at hp
  split at hp
  · cases hp
  rename_i hb
  obtain ⟨payload, ht', hp⟩ := bind_eq_ok_iff.mp hp
  cases hp
  obtain rfl := textField_eq_ok_iff.mp ht
  have payload_eq := textField_eq_ok_iff.mp ht'
  have length_eq : (Bytes.ofString payload).length = n := by
    rw [← payload_eq]
    have := List.length_take_le n rest
    omega
  refine ⟨_, rest.drop n, ⟨digits, length_eq ▸ numeral, ?_, hc, rfl⟩, ?_, ?_⟩
  · rw [length_eq]
    exact Nat.pos_of_ne_zero hz
  · rw [spelled_append, ← payload_eq, List.take_append_drop]
  · rw [spelled_length, length_eq]

theorem parse_complete {m : Message} {b : Bytes} (hb : m.Spelled b) (rest : Bytes) :
    parse (b ++ rest) = .ok ⟨m, b.length⟩ := by
  obtain ⟨digits, numeral, hpos, hc, rfl⟩ := hb
  have length_eq (tail : Bytes) :
      lengthField ((word ++ colon :: (digits ++ colon :: tail)).drop (word.length + 1)) =
        .ok ⟨(Bytes.ofString m.payload).length, digits.length + 1⟩ := by
    rw [drop_field]
    exact lengthField_eq_ok_iff.mpr ⟨digits, tail, numeral, rfl, rfl⟩
  have name := Bytes.upTo?_eq_some_iff.mpr ⟨hc, Bytes.ofString m.payload ++ rest, rfl⟩
  have text (s : String) : textField (Bytes.ofString s) = .ok s := textField_eq_ok_iff.mpr rfl
  rw [spelled_append, spelled_length]
  refine bind_eq_ok_iff.mpr ⟨_, literal_eq_ok_iff.mpr ⟨rfl, _, rfl⟩, ?_⟩
  refine bind_eq_ok_iff.mpr ⟨_, length_eq _, ?_⟩
  simp only [if_neg (Nat.ne_of_gt hpos), drop_two_fields, name]
  refine bind_eq_ok_iff.mpr ⟨_, text m.nickname, ?_⟩
  simp only [drop_three_fields, List.take_left, Nat.lt_irrefl, if_false]
  exact bind_eq_ok_iff.mpr ⟨_, text m.payload, rfl⟩

end Message

/-- What the reading of messages comes to: as many as are asked for, or fewer and then a record that
cannot be read. -/
theorem parseMessages_reads (n : Nat) (rest : Bytes) (consumed : Nat) (seen : List Message) :
    ∃ read records tail, List.Forall₂ Message.Spelled read records ∧
      rest = records.flatten ++ tail ∧
      (read.length = n ∧ parseMessages n rest consumed seen =
          .ok ⟨seen.reverse ++ read, consumed + records.flatten.length⟩ ∨
        read.length < n ∧ ∃ cause, Message.parse tail = .error cause ∧
          parseMessages n rest consumed seen =
            .error ⟨cause, consumed + records.flatten.length, seen.reverse ++ read⟩) := by
  induction n generalizing rest consumed seen with
  | zero => exact ⟨[], [], rest, .nil, rfl, .inl ⟨rfl, by simp [parseMessages]⟩⟩
  | succ n ih =>
    unfold parseMessages
    cases hm : Message.parse rest with
    | error cause =>
      exact ⟨[], [], rest, .nil, rfl, .inr ⟨Nat.succ_pos n, cause, hm, by simp⟩⟩
    | ok taken =>
      obtain ⟨m, used⟩ := taken
      obtain ⟨b, rest, hb, rfl, rfl⟩ := Message.parse_sound hm
      dsimp only
      rw [List.drop_left]
      obtain ⟨read, records, tail, spelled, rfl, result⟩ :=
        ih rest (consumed + b.length) (m :: seen)
      refine ⟨m :: read, b :: records, tail, .cons hb spelled, by simp, ?_⟩
      simpa [Nat.add_assoc, Nat.add_right_cancel_iff] using result

theorem parseMessages_complete {read : List Message} {records : List Bytes}
    (h : List.Forall₂ Message.Spelled read records) (tail : Bytes) (consumed : Nat)
    (seen : List Message) :
    parseMessages read.length (records.flatten ++ tail) consumed seen =
      .ok ⟨seen.reverse ++ read, consumed + records.flatten.length⟩ := by
  induction h generalizing consumed seen with
  | nil => simp [parseMessages]
  | @cons m b read records hb _ ih =>
    rw [List.length_cons, parseMessages, List.flatten_cons, List.append_assoc,
      Message.parse_complete hb]
    simp only [List.drop_left, ih]
    simp [Nat.add_assoc]

theorem parse_sound {input : Bytes} {ms : List Message} {used : Nat}
    (h : parse input = .ok ⟨ms, used⟩) :
    ∃ b rest, Spelled ms b ∧ input = b ++ rest ∧ used = b.length := by
  unfold parse at h
  split at h
  · rename_i header hh
    obtain ⟨lead, rest, hl, rfl, hu⟩ := Header.parse_sound hh
    rw [hu, List.drop_left] at h
    obtain ⟨read, records, tail, spelled, rfl, ⟨hn, result⟩ | ⟨-, cause, -, result⟩⟩ :=
      parseMessages_reads header.value.count rest lead.length []
    · cases result.symm.trans h
      refine ⟨lead ++ records.flatten, tail, ⟨lead, records, ?_, spelled, rfl⟩, by simp, by simp⟩
      rw [List.reverse_nil, List.nil_append, hn]
      exact hl
    · cases result.symm.trans h
  · cases h

theorem parse_complete {ms : List Message} {b : Bytes} (h : Spelled ms b) (rest : Bytes) :
    parse (b ++ rest) = .ok ⟨ms, b.length⟩ := by
  obtain ⟨lead, records, hl, spelled, rfl⟩ := h
  unfold parse
  rw [List.append_assoc, Header.parse_complete hl]
  simp only [List.drop_left, parseMessages_complete spelled]
  simp

/-- An envelope is read from the front of its input exactly where the grammar has one there, and
what is behind it makes no difference. -/
theorem parse_accepts_grammar (input : Bytes) (ms : List Message) (n : Nat) :
    (parse input = .ok ⟨ms, n⟩ ↔ n ≤ input.length ∧ Spelled ms (input.take n)) ∧
      (parse input = .ok ⟨ms, n⟩ → ∀ rest, parse (input.take n ++ rest) = .ok ⟨ms, n⟩) := by
  have sound (h : parse input = .ok ⟨ms, n⟩) : n ≤ input.length ∧ Spelled ms (input.take n) := by
    obtain ⟨b, rest, spelled, rfl, rfl⟩ := parse_sound h
    exact ⟨by simp, by rwa [List.take_left]⟩
  have complete (h : n ≤ input.length ∧ Spelled ms (input.take n)) (rest : Bytes) :
      parse (input.take n ++ rest) = .ok ⟨ms, n⟩ := by
    rw [parse_complete h.2, List.length_take_of_le h.1]
  refine ⟨⟨sound, fun h => ?_⟩, fun h => complete (sound h)⟩
  rw [← List.take_append_drop n input]
  exact complete h (input.drop n)

/-- Zeros may lead a length, and an unfinished envelope behind makes no difference. -/
example : parse (Bytes.ofString "inv:01:message:003::a:binv:") = .ok ⟨[⟨"a:b", ""⟩], 23⟩ := by
  decide +kernel

end Envelope

end Parley

import Parley.Proofs.RoundTrip

namespace Parley

theorem Decimal.head?_text {n : Nat} (hn : 0 < n) : (text n).head? ≠ some (digit 0) := by
  induction n using text.induct with
  | case1 n small =>
    rw [text, if_pos small, List.head?_cons, ne_eq, Option.some.injEq, ← UInt8.toNat_inj,
      toNat_digit small, toNat_digit (by decide)]
    omega
  | case2 n large ih =>
    rw [text, if_neg large, List.head?_append_of_ne_nil _ (text_ne_nil _)]
    exact ih (by omega)

namespace Envelope

/-- A number is written in one way if it does not start with a zero. -/
theorem Numeral.eq_digits {digits : Bytes} {n : Nat} (h : Numeral digits n)
    (hz : digits.head? ≠ some (Decimal.digit 0)) :
    digits = ((Nat.digits 10 n).map Decimal.digit).reverse := by
  have small : ∀ k ∈ digits.reverse.map fun d => d.toNat - 48, k < 10 := by
    intro k hk
    obtain ⟨d, hd, rfl⟩ := List.mem_map.mp hk
    have := h.digit d (List.mem_reverse.mp hd)
    omega
  have last : ∀ hne : (digits.reverse.map fun d => d.toNat - 48) ≠ [],
      (digits.reverse.map fun d => d.toNat - 48).getLast hne ≠ 0 := by
    intro hne
    obtain ⟨d, rest, rfl⟩ := List.exists_cons_of_ne_nil h.nonempty
    have range := h.digit d List.mem_cons_self
    have lead : d.toNat ≠ 48 := by
      intro he
      refine hz (congrArg some (UInt8.toNat_inj.mp ?_))
      rw [he, Decimal.toNat_digit (by decide)]
    simp only [List.reverse_cons, List.map_append, List.map_cons, List.map_nil,
      List.getLast_append_singleton]
    omega
  have back : ∀ d ∈ digits, Decimal.digit (d.toNat - 48) = d := by
    intro d hd
    have := h.digit d hd
    rw [← UInt8.toNat_inj, Decimal.toNat_digit (by omega)]
    omega
  rw [← h.value, Nat.digits_ofDigits 10 (by decide) _ small last, List.map_map, ← List.map_reverse,
    List.reverse_reverse]
  exact ((List.map_congr_left back).trans (List.map_id digits)).symm

theorem Numeral.eq_text_iff {digits : Bytes} {n : Nat} (h : Numeral digits n) (hn : 0 < n) :
    digits = Decimal.text n ↔ digits.head? ≠ some (Decimal.digit 0) := by
  have size : maxLength = 2 ^ 32 - 1 := rfl
  have plain : Numeral (Decimal.text n) n := numeral_text (by have := h.bounded; omega)
  constructor
  · rintro rfl
    exact Decimal.head?_text hn
  · intro hz
    rw [h.eq_digits hz, plain.eq_digits (Decimal.head?_text hn)]

/-- A record whose number starts with a zero. -/
def Padded (word b : Bytes) : Prop := word ++ [colon, Decimal.digit 0] <+: b

instance (word b : Bytes) : Decidable (Padded word b) :=
  inferInstanceAs (Decidable (_ <+: _))

theorem padded_iff {word digits : Bytes} (hne : digits ≠ []) (rest : Bytes) :
    Padded word (word ++ colon :: (digits ++ rest)) ↔ digits.head? = some (Decimal.digit 0) := by
  obtain ⟨d, digits, rfl⟩ := List.exists_cons_of_ne_nil hne
  simp [Padded, List.prefix_append_right_inj, List.cons_prefix_cons, eq_comm]

theorem Header.Spelled.eq_encode_iff {h : Header} {b : Bytes} (hb : h.Spelled b) :
    b = h.encode ↔ ¬Padded word b := by
  obtain ⟨digits, numeral, hpos, rfl⟩ := hb
  have shape := spelled_append digits []
  rw [List.append_nil] at shape
  rw [shape, padded_iff numeral.nonempty, ← ne_eq, ← numeral.eq_text_iff hpos, encode]
  simp

theorem Message.Spelled.eq_encode_iff {m : Message} {b : Bytes} (hb : m.Spelled b) :
    b = m.encode ↔ ¬Padded word b := by
  obtain ⟨digits, numeral, hpos, hc, rfl⟩ := hb
  have shape := spelled_append digits (Bytes.ofString m.nickname) (Bytes.ofString m.payload) []
  rw [List.append_nil, List.append_nil] at shape
  rw [shape, padded_iff numeral.nonempty, ← ne_eq, ← numeral.eq_text_iff hpos, encode]
  simp

/-- What was read survives being written. -/
theorem Message.Spelled.validate {m : Message} {b : Bytes} (hb : m.Spelled b) :
    m.validate = .ok () := by
  obtain ⟨digits, numeral, hpos, hc, -⟩ := hb
  exact validate_eq_ok_iff.mpr ⟨hpos, hc, (numeral_iff.mp numeral).2⟩

theorem Spelled.valid {ms : List Message} {b : Bytes} (hb : Spelled ms b) :
    ∀ m ∈ ms, m.validate = .ok () := by
  obtain ⟨lead, records, -, spelled, -⟩ := hb
  exact ((List.forall₂_and_left ms records).mp (spelled.imp fun _ _ hb => ⟨hb.validate, hb⟩)).1

theorem forM_validate {ms : List Message} (h : ∀ m ∈ ms, m.validate = .ok ()) :
    ms.forM Message.validate = .ok () := by
  induction ms with
  | nil => rfl
  | cons m ms ih =>
    obtain ⟨hm, hms⟩ := List.forall_mem_cons.mp h
    exact bind_eq_ok_iff.mpr ⟨(), hm, ih hms⟩

theorem encode_ok {ms : List Message} (hpos : 0 < ms.length) (hl : ms.length ≤ maxLength)
    (valid : ∀ m ∈ ms, m.validate = .ok ()) :
    encode ms = .ok (Header.encode ⟨ms.length⟩ ++ (ms.map Message.encode).flatten) := by
  have some_message : ms.isEmpty = false := by simpa using List.length_pos_iff.mp hpos
  refine bind_eq_ok_iff.mpr ⟨⟨ms.length⟩, ?_, by rw [List.flatMap_def]⟩
  simp only [Envelope.validate, some_message, Bool.false_eq_true, if_false,
    if_neg (Nat.not_lt.mpr hl)]
  exact bind_eq_ok_iff.mpr ⟨(), forM_validate valid, rfl⟩

theorem encode_one {m : Message} (h : m.validate = .ok ()) :
    ∃ written, encode [m] = .ok written :=
  ⟨_, encode_ok Nat.one_pos (show 1 ≤ maxLength by decide) (by simpa using h)⟩

/-- Where records end does not depend on how they are read. -/
theorem records_unique {ms : List Message} {records records' : List Bytes}
    (h : List.Forall₂ Message.Spelled ms records) (h' : List.Forall₂ Message.Spelled ms records')
    (same : records.flatten = records'.flatten) : records = records' := by
  induction h generalizing records' with
  | nil => cases h'; rfl
  | @cons m b ms records hb _ ih =>
    cases h' with
    | @cons _ b' _ records' hb' rest' =>
      rw [List.flatten_cons, List.flatten_cons] at same
      have first := Message.parse_complete hb records.flatten
      rw [same, Message.parse_complete hb' records'.flatten] at first
      simp only [Except.ok.injEq, Taken.mk.injEq, true_and] at first
      obtain ⟨rfl, tail⟩ := List.append_inj same first.symm
      rw [ih rest' tail]

theorem records_eq_iff {ms : List Message} {records : List Bytes}
    (h : List.Forall₂ Message.Spelled ms records) :
    records = ms.map Message.encode ↔ ∀ record ∈ records, ¬Padded Message.word record := by
  induction h with
  | nil => simp
  | cons hb _ ih =>
    rw [List.map_cons, List.cons.injEq, hb.eq_encode_iff, ih, List.forall_mem_cons]

/-- An envelope that was read can be written again. That gives the same bytes exactly if neither its
count nor the length of any of its messages is written with a zero in front. -/
theorem encode_parsed {input : Bytes} {ms : List Message} {n : Nat}
    (h : parse input = .ok ⟨ms, n⟩) :
    ∃ written lead records, encode ms = .ok written ∧ Header.Spelled ⟨ms.length⟩ lead ∧
      List.Forall₂ Message.Spelled ms records ∧ input.take n = lead ++ records.flatten ∧
      (written = input.take n ↔
        ¬Padded Header.word lead ∧ ∀ record ∈ records, ¬Padded Message.word record) := by
  obtain ⟨b, rest, whole, rfl, rfl⟩ := parse_sound h
  have valid := whole.valid
  obtain ⟨lead, records, header, spelled, rfl⟩ := whole
  obtain ⟨digits, numeral, hpos, hlead⟩ := id header
  have hl : ms.length ≤ maxLength := (numeral_iff.mp numeral).2
  have plain : List.Forall₂ Message.Spelled ms (ms.map Message.encode) := by
    rw [List.forall₂_map_right_iff, List.forall₂_same]
    exact fun m hm => Message.encode_spelled (valid m hm)
  refine ⟨_, lead, records, encode_ok hpos hl valid, header, spelled, List.take_left, ?_⟩
  rw [List.take_left, ← header.eq_encode_iff, ← records_eq_iff spelled]
  constructor
  · intro same
    have first := Header.parse_complete (Header.encode_spelled hpos hl)
      (ms.map Message.encode).flatten
    rw [same, Header.parse_complete header] at first
    simp only [Except.ok.injEq, Taken.mk.injEq, true_and] at first
    obtain ⟨heads, tails⟩ := List.append_inj same first.symm
    exact ⟨heads.symm, records_unique spelled plain tails.symm⟩
  · rintro ⟨rfl, rfl⟩
    rfl

theorem encode_parsed_reference :
    let input := Bytes.ofString "inv:2:message:5:Ann:Hi!!!message:3::a:binv:"
    let ms := [⟨"Hi!!!", "Ann"⟩, ⟨"a:b", ""⟩]
    parse input = .ok ⟨ms, 39⟩ ∧
      ∃ written lead records, encode ms = .ok written ∧ Header.Spelled ⟨ms.length⟩ lead ∧
        List.Forall₂ Message.Spelled ms records ∧ input.take 39 = lead ++ records.flatten ∧
        (written = input.take 39 ↔
          ¬Padded Header.word lead ∧ ∀ record ∈ records, ¬Padded Message.word record) := by
  intro input ms
  have read : parse input = .ok ⟨ms, 39⟩ := by decide +kernel
  exact ⟨read, encode_parsed read⟩

/-- A count with a zero in front is read, and written back without it. -/
theorem padded_count_rewritten :
    parse (Bytes.ofString "inv:01:message:1::a") = .ok ⟨[⟨"a", ""⟩], 19⟩ ∧
      encode [⟨"a", ""⟩] = .ok (Bytes.ofString "inv:1:message:1::a") ∧
      (Bytes.ofString "inv:01:message:1::a").take 19 ≠ Bytes.ofString "inv:1:message:1::a" := by
  decide +kernel

end Envelope

end Parley

import Mathlib.Tactic.IntervalCases
import RemoteTail.Proofs.Text.Boundary

/-!
# Decoding what has been encoded

The units of the UTF-8 octets of a text are its characters (`units_ofChars`).  So
strict decoding gives the text back (`decode?_ofChars`), and lossy decoding has
nothing to replace (`lossy_ofChars`).
-/

namespace RemoteTail.Utf8

/-! ## The octets of one character -/

theorem toNat_ofNat {value : Nat} (small : value < 256) : (UInt8.ofNat value).toNat = value := by
  rw [UInt8.toNat_ofNat']
  omega

theorem lead?_two {bits : Nat} (low : 2 ≤ bits) (high : bits < 32) :
    lead? (UInt8.ofNat (bits + 192)) = some ⟨bits, 0x80, 0xBF, 0⟩ := by
  interval_cases bits <;> rfl

theorem lead?_three {bits : Nat} (high : bits < 16) :
    lead? (UInt8.ofNat (bits + 224)) =
      some ⟨bits, if bits = 0 then 0xA0 else 0x80, if bits = 13 then 0x9F else 0xBF, 1⟩ := by
  interval_cases bits <;> rfl

theorem lead?_four {bits : Nat} (high : bits < 5) :
    lead? (UInt8.ofNat (bits + 240)) =
      some ⟨bits, if bits = 0 then 0x90 else 0x80, if bits = 4 then 0x8F else 0xBF, 2⟩ := by
  interval_cases bits <;> rfl

/-- A continuation adds six bits. -/
theorem trail_cons (further bits value : Nat) (rest : Bytes) :
    trail (further + 1) bits (UInt8.ofNat (value % 64 + 128) :: rest) =
      trail further (bits * 64 + value % 64) rest := by
  have continues : isContinuation (UInt8.ofNat (value % 64 + 128)) = true :=
    isContinuation_ofNat (by omega) (by omega)
  rw [trail, if_pos continues, toNat_ofNat (by omega), Nat.add_sub_cancel]

theorem unit_of_low {first : UInt8} (low : first < 0x80) (rest : Bytes) :
    unit first rest = (some (Char.ofNat first.toNat), rest) := by
  unfold unit
  rw [if_pos low]

theorem unit_of_lead {first : UInt8} {lead : Lead} (high : 0x80 ≤ first)
    (leads : lead? first = some lead) {value : Nat} (above : lead.low.toNat ≤ value % 64 + 128)
    (below : value % 64 + 128 ≤ lead.high.toNat) (rest : Bytes) :
    unit first (UInt8.ofNat (value % 64 + 128) :: rest) =
      trail lead.further (lead.bits * 64 + value % 64) rest := by
  have not_low : ¬ first < 0x80 := by simpa using high
  have within : (lead.low ≤ UInt8.ofNat (value % 64 + 128) &&
      UInt8.ofNat (value % 64 + 128) ≤ lead.high) = true := by
    rw [Bool.and_eq_true, decide_eq_true_eq, decide_eq_true_eq, UInt8.le_iff_toNat_le,
      UInt8.le_iff_toNat_le, toNat_ofNat (by omega)]
    exact ⟨above, below⟩
  unfold unit
  simp only [if_neg not_low, leads, within, if_true,
    toNat_ofNat (show value % 64 + 128 < 256 by omega), Nat.add_sub_cancel]

/-- The octets of a character are one unit. -/
theorem unit_encoded (c : Char) (rest : Bytes) :
    ∃ first more, String.utf8EncodeChar c = first :: more ∧
      unit first (more ++ rest) = (some c, rest) := by
  have back : Char.ofNat c.val.toNat = c := Char.ofNat_toNat c
  have valid : c.val.toNat < 0xD800 ∨ 0xDFFF < c.val.toNat ∧ c.val.toNat < 0x110000 := c.valid
  fun_cases String.utf8EncodeChar c with
  | case1 value low =>
      have is_low : UInt8.ofNat value < 0x80 := by
        rw [UInt8.lt_iff_toNat_lt, toNat_ofNat (by omega)]
        exact Nat.lt_succ_of_le low
      refine ⟨_, [], rfl, ?_⟩
      rw [List.nil_append, unit_of_low is_low, toNat_ofNat (by omega), back]
  | case2 value above below =>
      have leads := @lead?_two (value / 64) (by omega) (by omega)
      have bits_eq : value / 64 % 32 = value / 64 := by omega
      have value_eq : value / 64 * 64 + value % 64 = value := by omega
      refine ⟨_, [_], rfl, ?_⟩
      rw [List.singleton_append, bits_eq,
        unit_of_lead (le_ofNat 0x80 (by omega) (by omega)) leads, trail, value_eq, back]
      · change 128 ≤ _
        omega
      · change _ ≤ 191
        omega
  | case3 value _ above below =>
      have leads := @lead?_three (value / 4096) (by omega)
      have bits_eq : value / 4096 % 16 = value / 4096 := by omega
      have value_eq : (value / 4096 * 64 + value / 64 % 64) * 64 + value % 64 = value := by omega
      refine ⟨_, [_, _], rfl, ?_⟩
      rw [List.cons_append, List.singleton_append, bits_eq,
        unit_of_lead (le_ofNat 0x80 (by omega) (by omega)) leads, trail_cons, trail, value_eq, back]
      · -- Less is left to the second octet where the form would be overlong.
        split
        · change 160 ≤ _
          omega
        · change 128 ≤ _
          omega
      · -- Less is left to it too where a surrogate would come.
        change _ ≤ (if value / 4096 = 13 then 0x9F else 0xBF : UInt8).toNat
        split
        · change _ ≤ 159
          omega
        · change _ ≤ 191
          omega
  | case4 value _ _ above =>
      have leads := @lead?_four (value / 262144) (by omega)
      have bits_eq : value / 262144 % 8 = value / 262144 := by omega
      have value_eq : ((value / 262144 * 64 + value / 4096 % 64) * 64 + value / 64 % 64) * 64 +
          value % 64 = value := by omega
      refine ⟨_, [_, _, _], rfl, ?_⟩
      rw [List.cons_append, List.cons_append, List.singleton_append, bits_eq,
        unit_of_lead (le_ofNat 0x80 (by omega) (by omega)) leads, trail_cons, trail_cons, trail,
        value_eq, back]
      · split
        · change 144 ≤ _
          omega
        · change 128 ≤ _
          omega
      · change _ ≤ (if value / 262144 = 4 then 0x8F else 0xBF : UInt8).toNat
        split
        · change _ ≤ 143
          omega
        · change _ ≤ 191
          omega

/-! ## Texts -/

theorem units_encoded (c : Char) (rest : Bytes) :
    units (String.utf8EncodeChar c ++ rest) = some c :: units rest := by
  obtain ⟨first, more, encoded, unit_eq⟩ := unit_encoded c rest
  rw [encoded, List.cons_append, units, unit_eq]

theorem units_ofChars (text : List Char) : units (Bytes.ofChars text) = text.map some := by
  induction text with
  | nil => rw [Bytes.ofChars_nil, units, List.map_nil]
  | cons c text ih => rw [Bytes.ofChars_cons, units_encoded, ih, List.map_cons]

@[simp]
theorem decode?_ofChars (text : List Char) : decode? (Bytes.ofChars text) = some text := by
  rw [decode?, units_ofChars]
  induction text with
  | nil => rfl
  | cons c text ih => simp [ih]

@[simp]
theorem lossy_ofChars (text : List Char) : lossy (Bytes.ofChars text) = text := by
  simp [lossy, units_ofChars]

/-- In a text, lossy decoding has nothing to replace. -/
theorem IsText.decode?_eq_lossy {bytes : Bytes} (isText : IsText bytes) :
    decode? bytes = some (lossy bytes) := by
  obtain ⟨text, rfl⟩ := isText
  rw [decode?_ofChars, lossy_ofChars]

theorem IsText.ofChars_lossy {bytes : Bytes} (isText : IsText bytes) :
    Bytes.ofChars (lossy bytes) = bytes := by
  obtain ⟨text, rfl⟩ := isText
  rw [Utf8.lossy_ofChars]

end RemoteTail.Utf8

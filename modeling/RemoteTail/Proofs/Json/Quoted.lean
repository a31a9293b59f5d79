import RemoteTail.Json.Quoted
import RemoteTail.Json.Writer
import RemoteTail.Proofs.Text.Decoding

/-!
# Strings that are written and read

Inside a string, some octets stand for others, and whatever follows them is read
and skipped as before (`StandsFor`).  A character is written as octets that stand
for its UTF-8 octets (`standsFor_escape`).  So a string that has been written is
read for its text and skipped up to its end (`read_written`, `skip_written`).
-/

namespace RemoteTail.Json.Quoted

/-- Whether octets inside a string stand for others, whatever follows them. -/
def StandsFor (spelt meant : Bytes) : Prop :=
  ∀ rest, octets (spelt ++ rest) = (octets rest).map (meant ++ ·) ∧ skip (spelt ++ rest) = skip rest

/-- Whether an octet stands for itself. -/
def IsPlain (octet : UInt8) : Prop :=
  octet ≠ quote ∧ octet ≠ solidus ∧ ¬ octet < 0x20

/-! ## Octets and escapes -/

theorem standsFor_nil : StandsFor [] [] := by
  intro rest
  constructor
  · rw [List.nil_append]
    cases octets rest <;> rfl
  · rfl

theorem StandsFor.append {spelt meant spelt' meant' : Bytes} (first : StandsFor spelt meant)
    (second : StandsFor spelt' meant') : StandsFor (spelt ++ spelt') (meant ++ meant') := by
  intro rest
  obtain ⟨first_octets, first_skip⟩ := first (spelt' ++ rest)
  obtain ⟨second_octets, second_skip⟩ := second rest
  rw [List.append_assoc, first_octets, first_skip, second_octets, second_skip]
  refine ⟨?_, rfl⟩
  cases octets rest with
  | error fault => rfl
  | ok octets => exact congrArg Except.ok (List.append_assoc ..).symm

theorem standsFor_of_isPlain {octet : UInt8} (plain : IsPlain octet) :
    StandsFor [octet] [octet] := by
  obtain ⟨no_quote, no_solidus, no_control⟩ := plain
  intro rest
  rw [List.singleton_append]
  constructor
  · rw [octets, if_neg no_quote, if_neg no_solidus, if_neg no_control]
    rfl
  · rw [skip, if_neg no_quote, if_neg no_solidus, if_neg no_control]

theorem standsFor_of_forall_isPlain {bytes : Bytes} (plain : ∀ octet ∈ bytes, IsPlain octet) :
    StandsFor bytes bytes := by
  induction bytes with
  | nil => exact standsFor_nil
  | cons octet bytes ih =>
      obtain ⟨first, others⟩ := List.forall_mem_cons.mp plain
      exact (standsFor_of_isPlain first).append (ih others)

/-- An escape stands for what it is read as, if it is skipped as far as it is read. -/
theorem standsFor_of_escape {letters meant : Bytes}
    (escaped : ∀ rest, escape (letters ++ rest) = .ok (meant, rest))
    (skipped : ∀ rest, skipEscape (letters ++ rest) = .ok rest) :
    StandsFor (solidus :: letters) meant := by
  have no_quote : solidus ≠ quote := by decide
  intro rest
  rw [List.cons_append]
  constructor
  · rw [octets, if_neg no_quote, if_pos rfl]
    split
    · rename_i failed
      rw [escaped] at failed
      cases failed
    · rename_i taken
      rw [escaped] at taken
      cases taken
      rfl
  · rw [skip, if_neg no_quote, if_pos rfl]
    split
    · rename_i failed
      rw [skipped] at failed
      cases failed
    · rename_i taken
      rw [skipped] at taken
      cases taken
      rfl

theorem standsFor_of_shortEscape? {letter octet : UInt8} (no_unit : letter ≠ unitMark)
    (short : shortEscape? letter = some octet) : StandsFor [solidus, letter] [octet] := by
  apply standsFor_of_escape
  · intro rest
    rw [List.singleton_append, escape, if_neg no_unit, short]
  · intro rest
    rw [List.singleton_append, skipEscape, if_neg no_unit, short]
    rfl

/-! ## Characters -/

/-- Below 0x80, a character is one octet. -/
theorem encoded_of_lt {c : Char} (low : c.toNat < 0x80) :
    String.utf8EncodeChar c = [UInt8.ofNat c.toNat] :=
  String.utf8EncodeChar_eq_singleton (Char.utf8Size_eq_one_iff.mpr (by
    rw [UInt32.le_iff_toNat_le]
    exact Nat.le_of_lt_succ low))

theorem encoded_hexDigit {value : Nat} (small : value < 16) :
    ∃ octet, String.utf8EncodeChar (hexDigit value) = [octet] ∧ hexValue? octet = some value := by
  interval_cases value <;> exact ⟨_, rfl, rfl⟩

/-- A control is written by its code unit. -/
theorem standsFor_control {c : Char} (control : c.toNat < 0x20) :
    StandsFor
      (Bytes.ofChars ['\\', 'u', '0', '0', hexDigit (c.toNat / 16), hexDigit (c.toNat % 16)])
      (String.utf8EncodeChar c) := by
  obtain ⟨high, high_encoded, high_value⟩ :=
    @encoded_hexDigit (c.toNat / 16) (by omega)
  obtain ⟨low, low_encoded, low_value⟩ := @encoded_hexDigit (c.toNat % 16) (by omega)
  have spelt : Bytes.ofChars
      ['\\', 'u', '0', '0', hexDigit (c.toNat / 16), hexDigit (c.toNat % 16)] =
        solidus :: [unitMark, 0x30, 0x30, high, low] := by
    simp only [Bytes.ofChars_cons, Bytes.ofChars_nil, high_encoded, low_encoded]
    rfl
  have value_eq : ((0 * 16 + 0) * 16 + c.toNat / 16) * 16 + c.toNat % 16 = c.toNat := by omega
  have unit_eq : ∀ rest, codeUnit (0x30 :: 0x30 :: high :: low :: rest) = .ok (c.toNat, rest) := by
    intro rest
    have zero_value : hexValue? 0x30 = some 0 := rfl
    simp only [codeUnit, zero_value, high_value, low_value, value_eq]
  rw [spelt]
  apply standsFor_of_escape
  · intro rest
    have no_trailing : (0xDC00 ≤ c.toNat && c.toNat ≤ 0xDFFF) = false := by simp; omega
    have no_leading : (0xD800 ≤ c.toNat && c.toNat ≤ 0xDBFF) = false := by simp; omega
    simp only [List.cons_append, List.nil_append, escape, if_true, unit_eq, no_trailing, no_leading,
      Bool.false_eq_true, if_false, Char.ofNat_toNat]
  · intro rest
    simp only [List.cons_append, List.nil_append, skipEscape, if_true, unit_eq]
    rfl

theorem isPlain_of_le {octet : UInt8} (high : 0x80 ≤ octet) : IsPlain octet := by
  refine ⟨?_, ?_, ?_⟩
  · rintro rfl
    exact absurd high (by decide)
  · rintro rfl
    exact absurd high (by decide)
  · intro control
    rw [UInt8.lt_iff_toNat_lt] at control
    rw [UInt8.le_iff_toNat_le] at high
    exact absurd (Nat.lt_of_le_of_lt high control) (by decide)

/-- From 0x80 on, a character has no octet below 0x80. -/
theorem le_of_mem_encoded {c : Char} (high : ¬ c.toNat < 0x80) :
    ∀ octet ∈ String.utf8EncodeChar c, 0x80 ≤ octet := by
  rcases Utf8.encoded_cases c with ⟨octet, _, encoded⟩ | ⟨first, rest, encoded, leads, others⟩
  · have single : c.utf8Size = 1 := by rw [← String.length_utf8EncodeChar, encoded]; rfl
    rw [Char.utf8Size_eq_one_iff, UInt32.le_iff_toNat_le] at single
    exact absurd (Nat.lt_succ_of_le single) high
  · rw [encoded, List.forall_mem_cons]
    exact ⟨UInt8.le_trans (by decide) leads, others⟩

/-- A character that needs no escape is written in octets that stand for themselves. -/
theorem isPlain_of_mem_encoded {c : Char} (no_quote : c ≠ '"') (no_solidus : c ≠ '\\')
    (no_control : ¬ c.toNat < 0x20) : ∀ octet ∈ String.utf8EncodeChar c, IsPlain octet := by
  by_cases low : c.toNat < 0x80
  · rw [encoded_of_lt low, List.forall_mem_singleton]
    have other : ∀ d : Char, d.toNat < 0x80 → c ≠ d →
        UInt8.ofNat c.toNat ≠ UInt8.ofNat d.toNat := by
      intro d d_low apart same
      have values := congrArg UInt8.toNat same
      rw [Utf8.toNat_ofNat (by omega), Utf8.toNat_ofNat (by omega)] at values
      exact apart (Char.toNat_inj.mp values)
    refine ⟨other '"' (by decide) no_quote, other '\\' (by decide) no_solidus, ?_⟩
    rw [UInt8.lt_iff_toNat_lt, Utf8.toNat_ofNat (by omega)]
    exact no_control
  · intro octet member
    exact isPlain_of_le (le_of_mem_encoded low octet member)

/-- A character as it is written stands for its UTF-8 octets. -/
theorem standsFor_escape (c : Char) :
    StandsFor (Bytes.ofChars (Json.escape c)) (String.utf8EncodeChar c) := by
  fun_cases Json.escape c with
  | case1 => exact @standsFor_of_shortEscape? 0x22 0x22 (by decide) rfl
  | case2 => exact @standsFor_of_shortEscape? 0x5C 0x5C (by decide) rfl
  | case3 => exact @standsFor_of_shortEscape? 0x62 0x08 (by decide) rfl
  | case4 => exact @standsFor_of_shortEscape? 0x74 0x09 (by decide) rfl
  | case5 => exact @standsFor_of_shortEscape? 0x6E 0x0A (by decide) rfl
  | case6 => exact @standsFor_of_shortEscape? 0x66 0x0C (by decide) rfl
  | case7 => exact @standsFor_of_shortEscape? 0x72 0x0D (by decide) rfl
  | case8 c _ _ _ _ _ _ _ control => exact standsFor_control control
  | case9 c no_quote no_solidus _ _ _ _ _ no_control =>
      rw [Bytes.ofChars_cons, Bytes.ofChars_nil, List.append_nil]
      apply standsFor_of_forall_isPlain
      exact isPlain_of_mem_encoded no_quote no_solidus no_control

/-! ## Strings -/

theorem standsFor_flatMap_escape (text : List Char) :
    StandsFor (Bytes.ofChars (text.flatMap Json.escape)) (Bytes.ofChars text) := by
  induction text with
  | nil => exact standsFor_nil
  | cons c text ih =>
      rw [List.flatMap_cons, Bytes.ofChars_append, Bytes.ofChars_cons]
      exact (standsFor_escape c).append ih

/-- A string that has been written, from its opening quotation mark on. -/
theorem ofChars_stringText (text : List Char) :
    Bytes.ofChars (stringText text) =
      quote :: (Bytes.ofChars (text.flatMap Json.escape) ++ [quote]) := by
  rw [stringText, Bytes.ofChars_append, Bytes.ofChars_cons]
  rfl

/-- A string that has been written is read for its text. -/
theorem read_written (text : List Char) (rest : Bytes) :
    read (Bytes.ofChars (text.flatMap Json.escape) ++ quote :: rest) = .ok text := by
  have spelt := (standsFor_flatMap_escape text (quote :: rest)).1
  rw [octets, if_pos rfl] at spelt
  rw [read, spelt, Except.map, List.append_nil]
  simp only [Utf8.decode?_ofChars]

/-- A string that has been written is skipped up to its closing quotation mark. -/
theorem skip_written (text : List Char) (rest : Bytes) :
    skip (Bytes.ofChars (text.flatMap Json.escape) ++ quote :: rest) = .ok rest := by
  rw [(standsFor_flatMap_escape text (quote :: rest)).2, skip, if_pos rfl]

end RemoteTail.Json.Quoted

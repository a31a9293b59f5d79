import Mathlib.Tactic.IntervalCases
import RemoteTail.Json.Number
import RemoteTail.Text.Decimal

/-!
# Numerals that are written and read

The digits of a number denote it (`Decimal.value?_digits`).  Their octets are
digits without a leading zero, so that they are skipped as a JSON number if what
follows does not go on with it (`Json.Number.skip_digits`).  A number of 64 bits
is then also read for its value (`Json.Number.read_digits`).
-/

namespace RemoteTail

namespace Decimal

theorem isDigit_digit {value : Nat} (small : value < 10) : isDigit (digit value) = true := by
  interval_cases value <;> rfl

theorem extend_digit (total : Nat) {value : Nat} (small : value < 10) :
    extend total (digit value) = total * 10 + value := by
  have value_eq : (digit value).toNat - 0x30 = value := by
    interval_cases value <;> rfl
  rw [extend, value_eq]

theorem digits_ne_nil (value : Nat) : digits value ≠ [] := by
  fun_cases digits value with
  | case1 => simp
  | case2 => simp

theorem isDigit_of_mem_digits (value : Nat) : ∀ c ∈ digits value, isDigit c = true := by
  fun_induction digits value with
  | case1 value small => exact List.forall_mem_singleton.mpr (isDigit_digit small)
  | case2 value large ih =>
      rw [List.forall_mem_append, List.forall_mem_singleton]
      exact ⟨ih, isDigit_digit (Nat.mod_lt value (by decide))⟩

theorem foldl_extend_digits (value : Nat) : (digits value).foldl extend 0 = value := by
  fun_induction digits value with
  | case1 value small =>
      rw [List.foldl_cons, List.foldl_nil, extend_digit 0 small, Nat.zero_mul, Nat.zero_add]
  | case2 value large ih =>
      rw [List.foldl_append, ih, List.foldl_cons, List.foldl_nil,
        extend_digit _ (Nat.mod_lt value (by decide)), Nat.div_add_mod']

theorem value?_eq_some_iff {text : List Char} {value : Nat} :
    value? text = some value ↔
      text ≠ [] ∧ (∀ c ∈ text, isDigit c = true) ∧ text.foldl extend 0 = value := by
  simp [value?, and_assoc]

/-- The digits of a number denote it. -/
theorem value?_digits (value : Nat) : value? (digits value) = some value :=
  value?_eq_some_iff.mpr
    ⟨digits_ne_nil value, isDigit_of_mem_digits value, foldl_extend_digits value⟩

end Decimal

namespace Json

/-- Whether what follows a number does not go on with it. -/
def EndsNumber (rest : Bytes) : Prop :=
  ∀ octet ∈ rest.head?, isDigit octet = false ∧ octet ≠ 0x2E ∧ isExponentMark octet = false

theorem EndsNumber.stops {rest : Bytes} (ends : EndsNumber rest) :
    ∀ octet ∈ rest.head?, isDigit octet = false :=
  fun octet first => (ends octet first).1

theorem encoded_digit {value : Nat} (small : value < 10) :
    ∃ octet, String.utf8EncodeChar (Decimal.digit value) = [octet] ∧ isDigit octet = true ∧
      (octet = 0x30 → value = 0) := by
  interval_cases value <;> exact ⟨_, rfl, rfl, by decide⟩

/-- The octets of a numeral: a digit, which is a zero for zero only, and further digits.  Nothing
follows a leading zero. -/
theorem ofChars_digits (value : Nat) :
    ∃ first more, Bytes.ofChars (Decimal.digits value) = first :: more ∧ isDigit first = true ∧
      (∀ octet ∈ more, isDigit octet = true) ∧ (first = 0x30 → value = 0 ∧ more = []) := by
  fun_induction Decimal.digits value with
  | case1 value small =>
      obtain ⟨octet, encoded, digit, zero⟩ := encoded_digit small
      refine ⟨octet, [], ?_, digit, List.forall_mem_nil _, fun leading => ⟨zero leading, rfl⟩⟩
      rw [Bytes.ofChars_cons, Bytes.ofChars_nil, encoded, List.append_nil]
  | case2 value large ih =>
      obtain ⟨first, more, digits_eq, first_digit, more_digits, zero⟩ := ih
      obtain ⟨octet, encoded, digit, _⟩ :=
        @encoded_digit (value % 10) (Nat.mod_lt value (by decide))
      refine ⟨first, more ++ [octet], ?_, first_digit, ?_, ?_⟩
      · rw [Bytes.ofChars_append, digits_eq, Bytes.ofChars_cons, Bytes.ofChars_nil, encoded,
          List.append_nil, List.cons_append]
      · exact List.forall_mem_append.mpr ⟨more_digits, List.forall_mem_singleton.mpr digit⟩
      · intro first_zero
        have none_before := (zero first_zero).1
        omega

theorem digitValue_encoded {value : Nat} (small : value < 10) :
    ∃ octet, String.utf8EncodeChar (Decimal.digit value) = [octet] ∧
      digitValue octet = value := by
  interval_cases value <;> exact ⟨_, rfl, rfl⟩

/-- The octets of a numeral have its value, one digit after another. -/
theorem foldl_digitValue_digits (value : Nat) :
    (Bytes.ofChars (Decimal.digits value)).foldl
      (fun total octet => total * 10 + digitValue octet) 0 = value := by
  fun_induction Decimal.digits value with
  | case1 value small =>
      obtain ⟨octet, encoded, value_eq⟩ := digitValue_encoded small
      rw [Bytes.ofChars_cons, Bytes.ofChars_nil, encoded, List.append_nil, List.foldl_cons,
        List.foldl_nil, value_eq, Nat.zero_mul, Nat.zero_add]
  | case2 value large ih =>
      obtain ⟨octet, encoded, value_eq⟩ :=
        @digitValue_encoded (value % 10) (Nat.mod_lt value (by decide))
      rw [Bytes.ofChars_append, List.foldl_append, ih, Bytes.ofChars_cons, Bytes.ofChars_nil,
        encoded, List.append_nil, List.foldl_cons, List.foldl_nil, value_eq, Nat.div_add_mod']

namespace Number

theorem skipFraction_of_endsNumber {rest : Bytes} (ends : EndsNumber rest) :
    skipFraction rest = .ok rest := by
  cases rest with
  | nil => rfl
  | cons octet rest =>
      obtain ⟨_, no_point, no_exponent⟩ := ends octet rfl
      rw [skipFraction, if_neg no_point, skipExponent, if_neg (by simp [no_exponent])]

section

variable {digits rest : Bytes}

theorem dropWhile_digits (all_digits : ∀ octet ∈ digits, isDigit octet = true)
    (stops : ∀ octet ∈ rest.head?, isDigit octet = false) :
    (digits ++ rest).dropWhile isDigit = rest := by
  rw [List.dropWhile_append_of_pos all_digits]
  cases rest with
  | nil => rfl
  | cons octet rest => exact List.dropWhile_cons_of_neg (by simp [stops octet rfl])

theorem takeWhile_digits (all_digits : ∀ octet ∈ digits, isDigit octet = true)
    (stops : ∀ octet ∈ rest.head?, isDigit octet = false) :
    (digits ++ rest).takeWhile isDigit = digits := by
  rw [List.takeWhile_append_of_pos all_digits]
  cases rest with
  | nil => exact List.append_nil digits
  | cons octet rest =>
      rw [List.takeWhile_cons_of_neg (by simp [stops octet rfl]), List.append_nil]

end

/-- A numeral is skipped as far as its digits go. -/
theorem skip_digits (value : Nat) {rest : Bytes} (ends : EndsNumber rest) :
    skip (Bytes.ofChars (Decimal.digits value) ++ rest) = .ok rest := by
  obtain ⟨first, more, digits_eq, first_digit, more_digits, zero⟩ := ofChars_digits value
  have no_sign : first ≠ 0x2D := by
    rintro rfl
    cases first_digit
  rw [digits_eq, List.cons_append, skip, if_neg no_sign, skipUnsigned]
  by_cases first_zero : first = 0x30
  · obtain ⟨_, rfl⟩ := zero first_zero
    have no_digit : rest.head?.any isDigit = false := by
      cases rest with
      | nil => rfl
      | cons octet rest => exact (ends octet rfl).1
    rw [if_pos first_zero, List.nil_append, no_digit, if_neg Bool.false_ne_true,
      skipFraction_of_endsNumber ends]
  · rw [if_neg first_zero, skipDigits, if_pos first_digit, dropWhile_digits more_digits ends.stops]
    exact skipFraction_of_endsNumber ends

theorem le_foldl_digitValue (digits : Bytes) (significand : Nat) :
    significand ≤ digits.foldl (fun total octet => total * 10 + digitValue octet) significand := by
  induction digits generalizing significand with
  | nil => exact Nat.le_refl significand
  | cons octet digits ih =>
      have grown := ih (significand * 10 + digitValue octet)
      rw [List.foldl_cons]
      omega

/-- Digits are collected to the last one if their value has 64 bits. -/
theorem collect_eq {digits : Bytes} {significand : Nat}
    (fits : digits.foldl (fun total octet => total * 10 + digitValue octet) significand < 2 ^ 64) :
    collect significand digits =
      (digits.foldl (fun total octet => total * 10 + digitValue octet) significand, 0) := by
  induction digits generalizing significand with
  | nil => rfl
  | cons octet digits ih =>
      rw [List.foldl_cons] at fits ⊢
      have below : significand * 10 + digitValue octet < 1 <<< 64 :=
        Nat.lt_of_le_of_lt (le_foldl_digitValue digits _) fits
      rw [collect, if_pos below]
      exact ih fits

/-- A numeral of 64 bits is read for its number, with the given sign. -/
theorem ofDigits_digits (negative : Bool) {value : Nat} (fits : value < 2 ^ 64) {rest : Bytes}
    (ends : EndsNumber rest) :
    ofDigits negative (Bytes.ofChars (Decimal.digits value) ++ rest) =
      .ok (ofSign negative value) := by
  have value_eq := foldl_digitValue_digits value
  obtain ⟨first, more, digits_eq, first_digit, more_digits, zero⟩ := ofChars_digits value
  have all_digits : ∀ octet ∈ first :: more, isDigit octet = true :=
    List.forall_mem_cons.mpr ⟨first_digit, more_digits⟩
  have no_zero : (first = 0x30 && !more.isEmpty) = false := by
    by_cases leading : first = 0x30
    · simp [(zero leading).2]
    · simp [leading]
  rw [digits_eq] at value_eq
  have collected := @collect_eq (first :: more) 0 (by omega)
  rw [value_eq] at collected
  rw [digits_eq, ofDigits]
  simp only [takeWhile_digits all_digits ends.stops, dropWhile_digits all_digits ends.stops,
    no_zero, collected, Bool.false_eq_true, if_false, if_true]
  cases rest with
  | nil => rfl
  | cons octet rest =>
      obtain ⟨_, no_point, no_exponent⟩ := ends octet rfl
      simp only [no_point, no_exponent, Bool.false_eq_true, if_false]

/-- A numeral of 64 bits is read for its number. -/
theorem read_digits {value : Nat} (fits : value < 2 ^ 64) {rest : Bytes} (ends : EndsNumber rest) :
    read (Bytes.ofChars (Decimal.digits value) ++ rest) = .ok (.int value) := by
  have read_eq := ofDigits_digits false fits ends
  obtain ⟨first, more, digits_eq, first_digit, _⟩ := ofChars_digits value
  have no_sign : first ≠ 0x2D := by
    rintro rfl
    cases first_digit
  rw [digits_eq, List.cons_append] at read_eq ⊢
  rw [read, if_neg no_sign, read_eq]
  rfl

end Number

end Json

end RemoteTail

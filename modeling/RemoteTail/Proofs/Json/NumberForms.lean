import Mathlib.Data.List.Induction
import Mathlib.Data.List.TakeWhile
import RemoteTail.Proofs.Json.Grammar
import RemoteTail.Proofs.Json.Numerals
import RemoteTail.Proofs.Json.Record
import RemoteTail.Json.Writer

/-!
# Numbers that are read and skipped

Skipping a number accepts its form, and takes all of it where nothing follows
that goes on with it (`skip_of_isNumber`, `exists_of_skip`).  A number is read as
an integer exactly if it is spelt as one within the reach of 64 bits
(`read_eq_int_iff`).
-/

namespace RemoteTail.Json.Number

/-! ## Numbers that are skipped -/

theorem skipDigits_append {digits rest : Bytes} (isDigits : IsDigits digits)
    (stops : ∀ octet ∈ rest.head?, isDigit octet = false) :
    skipDigits (digits ++ rest) = .ok rest := by
  obtain ⟨filled, all_digits⟩ := isDigits
  obtain ⟨first, more, rfl⟩ := List.exists_cons_of_ne_nil filled
  obtain ⟨first_digit, more_digits⟩ := List.forall_mem_cons.mp all_digits
  rw [List.cons_append, skipDigits, if_pos first_digit, dropWhile_digits more_digits stops]

theorem exists_of_skipDigits {text rest : Bytes} (skipped : skipDigits text = .ok rest) :
    ∃ digits, IsDigits digits ∧ text = digits ++ rest := by
  rcases text with _ | ⟨first, more⟩
  · cases skipped
  rw [skipDigits] at skipped
  by_cases digit : isDigit first = true
  · rw [if_pos digit] at skipped
    cases skipped
    refine ⟨first :: more.takeWhile isDigit, ⟨List.cons_ne_nil _ _, ?_⟩, ?_⟩
    · exact List.forall_mem_cons.mpr ⟨digit, fun octet => List.mem_takeWhile_imp⟩
    · rw [List.cons_append, List.takeWhile_append_dropWhile]
  · rw [if_neg digit] at skipped
    cases skipped

theorem exponentSign_append {sign digits : Bytes} (isSign : sign ∈ [[], [0x2B], [0x2D]])
    (isDigits : IsDigits digits) (rest : Bytes) :
    (exponentSign (sign ++ (digits ++ rest))).2 = digits ++ rest := by
  obtain ⟨filled, all_digits⟩ := isDigits
  obtain ⟨first, more, rfl⟩ := List.exists_cons_of_ne_nil filled
  have first_digit := all_digits first List.mem_cons_self
  have no_plus : first ≠ 0x2B := by
    rintro rfl
    cases first_digit
  have no_minus : first ≠ 0x2D := by
    rintro rfl
    cases first_digit
  simp only [List.mem_cons, List.not_mem_nil, or_false] at isSign
  rcases isSign with rfl | rfl | rfl
  · rw [List.nil_append, List.cons_append, exponentSign, if_neg no_plus, if_neg no_minus]
  · rfl
  · rfl

theorem exists_of_exponentSign (text : Bytes) :
    ∃ sign ∈ [[], [0x2B], [0x2D]], text = sign ++ (exponentSign text).2 := by
  rcases text with _ | ⟨octet, rest⟩
  · exact ⟨[], by simp, rfl⟩
  rw [exponentSign]
  by_cases plus : octet = 0x2B
  · subst plus
    exact ⟨[0x2B], by simp, rfl⟩
  by_cases minus : octet = 0x2D
  · subst minus
    exact ⟨[0x2D], by simp, rfl⟩
  · rw [if_neg plus, if_neg minus]
    exact ⟨[], by simp, rfl⟩

theorem skipExponent_append {exponent rest : Bytes} (isExponent : IsExponent exponent)
    (ends : EndsNumber rest) : skipExponent (exponent ++ rest) = .ok rest := by
  cases isExponent with
  | none =>
      cases rest with
      | nil => rfl
      | cons octet rest =>
          rw [List.nil_append, skipExponent, if_neg (by simp [(ends octet rfl).2.2])]
  | digits isMark isSign isDigits =>
      rw [List.cons_append, List.append_assoc, skipExponent, if_pos isMark,
        exponentSign_append isSign isDigits]
      exact skipDigits_append isDigits ends.stops

theorem exists_of_skipExponent {text rest : Bytes} (skipped : skipExponent text = .ok rest) :
    ∃ exponent, IsExponent exponent ∧ text = exponent ++ rest := by
  rcases text with _ | ⟨mark, text⟩
  · cases skipped
    exact ⟨[], .none, rfl⟩
  rw [skipExponent] at skipped
  by_cases isMark : isExponentMark mark = true
  · rw [if_pos isMark] at skipped
    obtain ⟨digits, isDigits, digits_eq⟩ := exists_of_skipDigits skipped
    obtain ⟨sign, isSign, text_eq⟩ := exists_of_exponentSign text
    refine ⟨mark :: (sign ++ digits), .digits isMark isSign isDigits, ?_⟩
    rw [List.cons_append, List.append_assoc, ← digits_eq, ← text_eq]
  · rw [if_neg isMark] at skipped
    cases skipped
    exact ⟨[], .none, rfl⟩

theorem isExponentMark_ne_point {mark : UInt8} (isMark : isExponentMark mark = true) :
    mark ≠ 0x2E ∧ isDigit mark = false := by
  simp only [isExponentMark, Bool.or_eq_true, decide_eq_true_eq] at isMark
  rcases isMark with rfl | rfl <;> exact ⟨by decide, rfl⟩

/-- What follows the last digit before an exponent goes on with no digit. -/
theorem stops_of_exponent {exponent rest : Bytes} (isExponent : IsExponent exponent)
    (ends : EndsNumber rest) : ∀ octet ∈ (exponent ++ rest).head?, isDigit octet = false := by
  cases isExponent with
  | none => exact ends.stops
  | digits isMark isSign isDigits =>
      rintro _ ⟨⟩
      exact (isExponentMark_ne_point isMark).2

/-- What follows the whole part of a number goes on with no digit. -/
theorem stops_of_fraction {fraction exponent rest : Bytes} (isFraction : IsFraction fraction)
    (isExponent : IsExponent exponent) (ends : EndsNumber rest) :
    ∀ octet ∈ (fraction ++ (exponent ++ rest)).head?, isDigit octet = false := by
  cases isFraction with
  | none =>
      rw [List.nil_append]
      exact stops_of_exponent isExponent ends
  | digits isDigits =>
      rintro _ ⟨⟩
      rfl

theorem skipFraction_append {fraction exponent rest : Bytes} (isFraction : IsFraction fraction)
    (isExponent : IsExponent exponent) (ends : EndsNumber rest) :
    skipFraction (fraction ++ (exponent ++ rest)) = .ok rest := by
  have skipped := skipExponent_append isExponent ends
  cases isFraction with
  | none =>
      cases isExponent with
      | none => exact skipFraction_of_endsNumber ends
      | digits isMark isSign isDigits =>
          rw [List.nil_append, List.cons_append, skipFraction,
            if_neg (isExponentMark_ne_point isMark).1]
          exact skipped
  | digits isDigits =>
      rw [List.cons_append, skipFraction, if_pos rfl,
        skipDigits_append isDigits (stops_of_exponent isExponent ends)]
      exact skipped

theorem exists_of_skipFraction {text rest : Bytes} (skipped : skipFraction text = .ok rest) :
    ∃ fraction exponent, IsFraction fraction ∧ IsExponent exponent ∧
      text = fraction ++ (exponent ++ rest) := by
  rcases text with _ | ⟨octet, text⟩
  · cases skipped
    exact ⟨[], [], .none, .none, rfl⟩
  rw [skipFraction] at skipped
  by_cases point : octet = 0x2E
  · subst point
    rw [if_pos rfl] at skipped
    obtain ⟨between, digits_eq, exponent_eq⟩ := ok_of_bind skipped
    obtain ⟨digits, isDigits, rfl⟩ := exists_of_skipDigits digits_eq
    obtain ⟨exponent, isExponent, rfl⟩ := exists_of_skipExponent exponent_eq
    exact ⟨_, exponent, .digits isDigits, isExponent, rfl⟩
  · rw [if_neg point] at skipped
    obtain ⟨exponent, isExponent, text_eq⟩ := exists_of_skipExponent skipped
    exact ⟨[], exponent, .none, isExponent, text_eq⟩

theorem skipUnsigned_append {whole fraction exponent rest : Bytes} (isWhole : IsNumeral whole)
    (isFraction : IsFraction fraction) (isExponent : IsExponent exponent) (ends : EndsNumber rest) :
    skipUnsigned (whole ++ (fraction ++ (exponent ++ rest))) = .ok rest := by
  have skipped := skipFraction_append isFraction isExponent ends
  have stops := stops_of_fraction isFraction isExponent ends
  obtain ⟨isDigits, no_zero⟩ := isWhole
  obtain ⟨first, more, rfl⟩ := List.exists_cons_of_ne_nil isDigits.1
  by_cases zero : first = 0x30
  · obtain ⟨rfl, rfl⟩ := List.cons.inj (no_zero (congrArg some zero))
    have no_digit : (fraction ++ (exponent ++ rest)).head?.any isDigit = false := by
      cases begins : (fraction ++ (exponent ++ rest)).head? with
      | none => rfl
      | some octet => exact stops octet begins
    rw [List.singleton_append, skipUnsigned, if_pos rfl, no_digit, if_neg Bool.false_ne_true,
      skipped]
  · have digits_skipped := skipDigits_append isDigits stops
    rw [List.cons_append] at digits_skipped ⊢
    rw [skipUnsigned, if_neg zero, digits_skipped]
    exact skipped

theorem exists_of_skipUnsigned {text rest : Bytes} (skipped : skipUnsigned text = .ok rest) :
    ∃ whole fraction exponent, IsNumeral whole ∧ IsFraction fraction ∧ IsExponent exponent ∧
      text = whole ++ (fraction ++ (exponent ++ rest)) := by
  rcases text with _ | ⟨first, more⟩
  · cases skipped
  rw [skipUnsigned] at skipped
  by_cases zero : first = 0x30
  · subst zero
    rw [if_pos rfl] at skipped
    by_cases digit : more.head?.any isDigit = true
    · rw [if_pos digit] at skipped
      cases skipped
    · rw [if_neg digit] at skipped
      obtain ⟨fraction, exponent, isFraction, isExponent, rfl⟩ := exists_of_skipFraction skipped
      refine ⟨[0x30], fraction, exponent, ⟨⟨by simp, ?_⟩, fun _ => rfl⟩, isFraction, isExponent,
        rfl⟩
      exact List.forall_mem_singleton.mpr rfl
  · rw [if_neg zero] at skipped
    obtain ⟨between, digits_eq, fraction_eq⟩ := ok_of_bind skipped
    obtain ⟨whole, isDigits, text_eq⟩ := exists_of_skipDigits digits_eq
    obtain ⟨fraction, exponent, isFraction, isExponent, rfl⟩ := exists_of_skipFraction fraction_eq
    refine ⟨whole, fraction, exponent, ⟨isDigits, ?_⟩, isFraction, isExponent, text_eq⟩
    obtain ⟨octet, digits, rfl⟩ := List.exists_cons_of_ne_nil isDigits.1
    obtain ⟨rfl, _⟩ := List.cons.inj text_eq
    exact fun leading => absurd (Option.some.inj leading) zero

/-- The first digit of a number is no sign. -/
theorem isNumeral_ne_sign {whole : Bytes} (isWhole : IsNumeral whole) :
    ∃ first more, whole = first :: more ∧ isDigit first = true ∧ first ≠ 0x2D := by
  obtain ⟨first, more, rfl⟩ := List.exists_cons_of_ne_nil isWhole.1.1
  have digit := isWhole.1.2 first List.mem_cons_self
  refine ⟨first, more, rfl, digit, ?_⟩
  rintro rfl
  cases digit

/-- A number is skipped where nothing follows that goes on with it. -/
theorem skip_of_isNumber {number rest : Bytes} (isNumber : IsNumber number)
    (ends : EndsNumber rest) : skip (number ++ rest) = .ok rest := by
  cases isNumber with
  | parts isSign isWhole isFraction isExponent =>
      have skipped := skipUnsigned_append isWhole isFraction isExponent ends
      rw [List.append_assoc, List.append_assoc, List.append_assoc]
      simp only [List.mem_cons, List.not_mem_nil, or_false] at isSign
      rcases isSign with rfl | rfl
      · obtain ⟨first, more, rfl, _, no_sign⟩ := isNumeral_ne_sign isWhole
        rw [List.cons_append] at skipped
        rw [List.nil_append, List.cons_append, skip, if_neg no_sign, skipped]
      · rw [List.singleton_append, skip, if_pos rfl, skipped]

/-- What can be skipped is a number. -/
theorem exists_of_skip {text rest : Bytes} (skipped : skip text = .ok rest) :
    ∃ number, IsNumber number ∧ text = number ++ rest := by
  rcases text with _ | ⟨octet, text⟩
  · cases skipped
  rw [skip] at skipped
  by_cases minus : octet = 0x2D
  · subst minus
    rw [if_pos rfl] at skipped
    obtain ⟨whole, fraction, exponent, isWhole, isFraction, isExponent, rfl⟩ :=
      exists_of_skipUnsigned skipped
    refine ⟨_, @IsNumber.parts [0x2D] _ _ _ (by simp) isWhole isFraction isExponent, ?_⟩
    simp only [List.cons_append, List.nil_append, List.append_assoc]
  · rw [if_neg minus] at skipped
    obtain ⟨whole, fraction, exponent, isWhole, isFraction, isExponent, text_eq⟩ :=
      exists_of_skipUnsigned skipped
    refine ⟨_, @IsNumber.parts [] _ _ _ (by simp) isWhole isFraction isExponent, ?_⟩
    simp only [text_eq, List.nil_append, List.append_assoc]

/-! ## Integers -/

theorem realInRange_ne_int {significand : Nat} {exponent value : Int} :
    realInRange significand exponent ≠ .ok (.int value) := by
  unfold realInRange
  split <;> simp

theorem withExponent_ne_int {significand : Nat} {exponent value : Int} {marked : Bytes} :
    withExponent significand exponent marked ≠ .ok (.int value) := by
  unfold withExponent
  split
  split
  · simp
  · split
    · exact realInRange_ne_int
    · simp

theorem withFraction_ne_int {significand : Nat} {exponent value : Int} {pointed : Bytes} :
    withFraction significand exponent pointed ≠ .ok (.int value) := by
  unfold withFraction
  dsimp only
  split
  · simp
  · split
    · split
      · exact withExponent_ne_int
      · exact realInRange_ne_int
    · exact realInRange_ne_int

/-- Digits that are all collected have the value that they denote. -/
theorem eq_of_collect {digits : Bytes} {significand total : Nat}
    (collected : collect significand digits = (total, 0)) (small : significand < 2 ^ 64) :
    total = digits.foldl (fun total octet => total * 10 + digitValue octet) significand ∧
      total < 2 ^ 64 := by
  induction digits generalizing significand with
  | nil =>
      cases collected
      exact ⟨rfl, small⟩
  | cons octet digits ih =>
      rw [collect] at collected
      by_cases fits : significand * 10 + digitValue octet < 1 <<< 64
      · rw [if_pos fits] at collected
        exact ih collected fits
      · rw [if_neg fits] at collected
        cases collected

theorem encoded_digitValue {octet : UInt8} (digit : isDigit octet = true) :
    digitValue octet < 10 ∧
      String.utf8EncodeChar (Decimal.digit (digitValue octet)) = [octet] := by
  simp only [isDigit, Bool.and_eq_true, decide_eq_true_eq, UInt8.le_iff_toNat_le,
    UInt8.reduceToNat] at digit
  obtain ⟨above, below⟩ := digit
  have octet_eq : octet = UInt8.ofNat octet.toNat := UInt8.ofNat_toNat.symm
  generalize octet.toNat = value at above below octet_eq
  subst octet_eq
  interval_cases value <;> exact ⟨by decide, rfl⟩

/-- A numeral is the digits of its value. -/
theorem ofChars_digits_foldl {digits : Bytes} (isNumeral : IsNumeral digits) :
    Bytes.ofChars (Decimal.digits
      (digits.foldl (fun total octet => total * 10 + digitValue octet) 0)) = digits := by
  obtain ⟨⟨filled, all_digits⟩, no_zero⟩ := isNumeral
  induction digits using List.reverseRecOn with
  | nil => exact absurd rfl filled
  | append_singleton digits octet ih =>
      rw [List.forall_mem_append, List.forall_mem_singleton] at all_digits
      obtain ⟨digits_digits, digit⟩ := all_digits
      obtain ⟨small, encoded⟩ := encoded_digitValue digit
      rw [List.foldl_append, List.foldl_cons, List.foldl_nil]
      rcases digits with _ | ⟨first, more⟩
      · rw [List.foldl_nil, Nat.zero_mul, Nat.zero_add, Decimal.digits, if_pos small,
          Bytes.ofChars_cons, encoded]
        rfl
      · have first_ne : first ≠ 0x30 := by
          rintro rfl
          simpa using no_zero rfl
        have digits_eq := ih (fun leading => absurd (Option.some.inj leading) first_ne)
          (List.cons_ne_nil _ _) digits_digits
        -- There is a digit other than zero in front, so that the value has several digits.
        have positive : 0 < (first :: more).foldl
            (fun total octet => total * 10 + digitValue octet) 0 := by
          have first_le := le_foldl_digitValue more (0 * 10 + digitValue first)
          have first_pos : 0 < digitValue first := by
            refine Nat.pos_of_ne_zero fun zero => first_ne ?_
            have spelt := (encoded_digitValue (digits_digits first List.mem_cons_self)).2
            rw [zero] at spelt
            exact (List.cons.inj spelt).1.symm
          rw [List.foldl_cons]
          omega
        generalize (first :: more).foldl _ 0 = value at digits_eq positive ⊢
        have quotient : (value * 10 + digitValue octet) / 10 = value := by omega
        have remainder : (value * 10 + digitValue octet) % 10 = digitValue octet := by omega
        rw [Decimal.digits, if_neg (by omega), quotient, remainder, Bytes.ofChars_append, digits_eq,
          Bytes.ofChars_cons, encoded]
        rfl

/-- Digits are read as an integer only if they are a numeral of 64 bits. -/
theorem exists_of_ofDigits {negative : Bool} {unsigned : Bytes} {value : Int}
    (read_eq : ofDigits negative unsigned = .ok (.int value)) :
    ∃ size rest, unsigned = Bytes.ofChars (Decimal.digits size) ++ rest ∧ EndsNumber rest ∧
      size < 2 ^ 64 ∧ ofSign negative size = .int value := by
  have unsigned_eq : unsigned.takeWhile isDigit ++ unsigned.dropWhile isDigit = unsigned :=
    List.takeWhile_append_dropWhile
  have all_digits : ∀ octet ∈ unsigned.takeWhile isDigit, isDigit octet = true :=
    fun octet => List.mem_takeWhile_imp
  have stops : ∀ octet ∈ (unsigned.dropWhile isDigit).head?, isDigit octet = false := by
    intro octet first
    have stopped := List.head?_dropWhile_not isDigit unsigned
    rw [Option.mem_def.mp first] at stopped
    exact stopped
  rw [ofDigits] at read_eq
  generalize unsigned.takeWhile isDigit = digits at read_eq unsigned_eq all_digits
  generalize unsigned.dropWhile isDigit = rest at read_eq unsigned_eq stops
  rcases digits with _ | ⟨first, more⟩
  · cases read_eq
  by_cases leading : (first = 0x30 && !more.isEmpty) = true
  · simp only [leading, if_true, reduceCtorEq] at read_eq
  have isNumeral : IsNumeral (first :: more) := by
    refine ⟨⟨List.cons_ne_nil _ _, all_digits⟩, fun zero => ?_⟩
    obtain rfl := Option.some.inj zero
    simpa using leading
  rcases collected : collect 0 (first :: more) with ⟨total, left⟩
  -- Only an integer that has been collected to its last digit is read as one.
  have finished : (if left = 0 then .ok (ofSign negative total) else realInRange total left) =
      Except.ok (Number.int value) ∧ EndsNumber rest := by
    simp only [leading, Bool.false_eq_true, if_false, collected] at read_eq
    rcases rest with _ | ⟨octet, rest⟩
    · exact ⟨read_eq, fun octet first => absurd first (Option.not_mem_none octet)⟩
    by_cases point : octet = 0x2E
    · simp only [point, if_true] at read_eq
      exact absurd read_eq withFraction_ne_int
    by_cases mark : isExponentMark octet = true
    · simp only [point, mark, if_true, if_false] at read_eq
      exact absurd read_eq withExponent_ne_int
    · simp only [point, mark, Bool.false_eq_true, if_false] at read_eq
      refine ⟨read_eq, ?_⟩
      rintro _ ⟨⟩
      exact ⟨stops octet rfl, point, Bool.eq_false_iff.mpr mark⟩
  obtain ⟨finish_eq, ends⟩ := finished
  by_cases whole : left = 0
  · subst whole
    obtain ⟨total_eq, fits⟩ := eq_of_collect collected (by decide)
    refine ⟨total, rest, ?_, ends, fits, Except.ok.inj finish_eq⟩
    rw [total_eq, ofChars_digits_foldl isNumeral, unsigned_eq]
  · rw [if_neg whole] at finish_eq
    exact absurd finish_eq realInRange_ne_int

theorem ofSign_true_eq_int_iff {size : Nat} {value : Int} :
    ofSign true size = .int value ↔ 0 < size ∧ size ≤ 2 ^ 63 ∧ value = -size := by
  by_cases fits : 0 < size ∧ size ≤ 1 <<< 63
  · simp only [ofSign, if_true, if_pos fits, Number.int.injEq]
    exact ⟨fun value_eq => ⟨fits.1, fits.2, value_eq.symm⟩, fun parts => parts.2.2.symm⟩
  · simp only [ofSign, if_true, if_neg fits, reduceCtorEq, false_iff]
    exact fun parts => fits ⟨parts.1, parts.2.1⟩

theorem intText_neg {size : Nat} (positive : 0 < size) :
    intText (-size) = '-' :: Decimal.digits size := by
  obtain ⟨size, rfl⟩ := Nat.exists_eq_add_one_of_ne_zero (Nat.ne_of_gt positive)
  rfl

/-- A number is read as an integer exactly if it is the numeral of one within the reach of 64
bits. -/
theorem read_eq_int_iff {text : Bytes} {value : Int} :
    read text = .ok (.int value) ↔
      ∃ rest, text = Bytes.ofChars (intText value) ++ rest ∧ EndsNumber rest ∧
        -2 ^ 63 ≤ value ∧ value < 2 ^ 64 := by
  constructor
  · intro read_eq
    rcases text with _ | ⟨octet, text⟩
    · cases read_eq
    rw [read] at read_eq
    by_cases minus : octet = 0x2D
    · rw [if_pos minus] at read_eq
      obtain ⟨size, rest, rfl, ends, fits, sign_eq⟩ := exists_of_ofDigits read_eq
      obtain ⟨positive, small, rfl⟩ := ofSign_true_eq_int_iff.mp sign_eq
      refine ⟨rest, ?_, ends, by omega, by omega⟩
      rw [intText_neg positive, minus]
      rfl
    · rw [if_neg minus] at read_eq
      obtain ⟨size, rest, text_eq, ends, fits, sign_eq⟩ := exists_of_ofDigits read_eq
      obtain rfl := Number.int.inj sign_eq
      exact ⟨rest, text_eq, ends, by omega, by omega⟩
  · rintro ⟨rest, rfl, ends, above, below⟩
    cases value with
    | ofNat size => exact read_digits (Int.ofNat_lt.mp below) ends
    | negSucc size =>
        have read_eq := @ofDigits_digits true (size + 1) (by omega) rest ends
        rw [ofSign_true_eq_int_iff.mpr ⟨Nat.succ_pos size, by omega, rfl⟩] at read_eq
        exact read_eq

theorem isNumeral_digits (size : Nat) : IsNumeral (Bytes.ofChars (Decimal.digits size)) := by
  obtain ⟨first, more, digits_eq, first_digit, more_digits, zero⟩ := ofChars_digits size
  rw [digits_eq]
  refine ⟨⟨List.cons_ne_nil _ _, List.forall_mem_cons.mpr ⟨first_digit, more_digits⟩⟩, ?_⟩
  intro leading
  obtain rfl := Option.some.inj leading
  rw [(zero rfl).2]

/-- The numeral of an integer is a number. -/
theorem isNumber_intText (value : Int) : IsNumber (Bytes.ofChars (intText value)) := by
  cases value with
  | ofNat size =>
      have isNumber := @IsNumber.parts [] _ _ _ (by simp) (isNumeral_digits size) .none .none
      rw [List.append_nil, List.append_nil] at isNumber
      exact isNumber
  | negSucc size =>
      have isNumber := @IsNumber.parts [0x2D] _ _ _ (by simp) (isNumeral_digits (size + 1))
        .none .none
      rw [List.append_nil, List.append_nil] at isNumber
      exact isNumber

theorem digits_injective {size other : Nat}
    (same : Bytes.ofChars (Decimal.digits size) = Bytes.ofChars (Decimal.digits other)) :
    size = other := by
  rw [← foldl_digitValue_digits size, same, foldl_digitValue_digits]

/-- An integer has one numeral. -/
theorem intText_injective {value other : Int}
    (same : Bytes.ofChars (intText value) = Bytes.ofChars (intText other)) : value = other := by
  have no_sign (size : Nat) (more : Bytes) :
      Bytes.ofChars (Decimal.digits size) ≠ 0x2D :: more := by
    obtain ⟨first, _, digits_eq, _, first_ne⟩ := isNumeral_ne_sign (isNumeral_digits size)
    rw [digits_eq]
    exact fun same => first_ne (List.cons.inj same).1
  cases value with
  | ofNat size =>
      cases other with
      | ofNat other => exact congrArg Int.ofNat (digits_injective same)
      | negSucc other => exact absurd same (no_sign size _)
  | negSucc size =>
      cases other with
      | ofNat other => exact absurd same.symm (no_sign other _)
      | negSucc other =>
          have sizes := digits_injective (List.cons.inj same).2
          rw [Nat.succ.inj sizes]

end RemoteTail.Json.Number

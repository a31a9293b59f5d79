import RemoteTail.Proofs.Json.Grammar
import RemoteTail.Proofs.Json.Record
import RemoteTail.Proofs.Text.Repair

/-!
# Strings that are read and skipped

Skipping a string accepts its form and finds its end (`skip_eq_ok_iff`).  Reading
it accepts those strings of that form that spell a text, and gives that text
(`read_eq_ok_iff`).
-/

namespace RemoteTail.Json.Quoted

/-! ## Escapes -/

theorem hexValue?_of_spellsHex {octet : UInt8} {value : Nat} (spelt : SpellsHex octet value) :
    hexValue? octet = some value := by
  have small : value < 16 := by
    rcases spelt with found | found
    · exact (List.getElem?_eq_some_iff.mp found).1
    · exact (List.getElem?_eq_some_iff.mp found).1
  rcases spelt with found | found
  · interval_cases value <;> cases found <;> rfl
  · interval_cases value <;> cases found <;> rfl

theorem spellsHex_of_hexValue? {octet : UInt8} {value : Nat}
    (found : hexValue? octet = some value) : SpellsHex octet value := by
  have octet_eq : octet = UInt8.ofNat octet.toNat := UInt8.ofNat_toNat.symm
  rw [hexValue?] at found
  simp only [Bool.and_eq_true, decide_eq_true_eq, UInt8.le_iff_toNat_le, UInt8.reduceToNat] at found
  split_ifs at found with digit upper lower
  all_goals
    obtain rfl := Option.some.inj found
    generalize octet.toNat = place at *
    subst octet_eq
  · obtain ⟨above, below⟩ := digit
    interval_cases place <;> exact .inl rfl
  · obtain ⟨above, below⟩ := upper
    interval_cases place <;> exact .inr rfl
  · obtain ⟨above, below⟩ := lower
    interval_cases place <;> exact .inl rfl

theorem codeUnit_of_spellsUnit {digits : Bytes} {value : Nat} (spelt : SpellsUnit digits value)
    (rest : Bytes) : codeUnit (digits ++ rest) = .ok (value, rest) := by
  cases spelt with
  | digits first second third fourth =>
      simp only [List.cons_append, List.nil_append, codeUnit, hexValue?_of_spellsHex first,
        hexValue?_of_spellsHex second, hexValue?_of_spellsHex third, hexValue?_of_spellsHex fourth]

theorem exists_of_codeUnit {text rest : Bytes} {value : Nat}
    (taken : codeUnit text = .ok (value, rest)) :
    ∃ digits, text = digits ++ rest ∧ SpellsUnit digits value := by
  unfold codeUnit at taken
  split at taken
  · split at taken
    · next first second third fourth =>
        cases taken
        exact ⟨[_, _, _, _], rfl, .digits (spellsHex_of_hexValue? first)
          (spellsHex_of_hexValue? second) (spellsHex_of_hexValue? third)
          (spellsHex_of_hexValue? fourth)⟩
    · cases taken
  · cases taken

theorem shortEscape?_of_listed {letter : UInt8} {c : Char} (listed : (letter, c) ∈ shortEscapes) :
    letter ≠ unitMark ∧ ∃ octet, shortEscape? letter = some octet ∧
      String.utf8EncodeChar c = [octet] := by
  simp only [shortEscapes, List.mem_cons, Prod.mk.injEq, List.not_mem_nil, or_false] at listed
  rcases listed with ⟨rfl, rfl⟩ | ⟨rfl, rfl⟩ | ⟨rfl, rfl⟩ | ⟨rfl, rfl⟩ | ⟨rfl, rfl⟩ | ⟨rfl, rfl⟩ |
    ⟨rfl, rfl⟩ | ⟨rfl, rfl⟩ <;> exact ⟨by decide, _, rfl, rfl⟩

theorem listed_of_shortEscape? {letter octet : UInt8} (found : shortEscape? letter = some octet) :
    ∃ c, (letter, c) ∈ shortEscapes ∧ String.utf8EncodeChar c = [octet] := by
  rw [shortEscape?] at found
  simp only [Bool.or_eq_true, decide_eq_true_eq] at found
  split_ifs at found with same backspace form line carriage tab
  · obtain rfl := Option.some.inj found
    rcases same with (rfl | rfl) | rfl
    · exact ⟨'"', by decide, rfl⟩
    · exact ⟨'\\', by decide, rfl⟩
    · exact ⟨'/', by decide, rfl⟩
  all_goals
    obtain rfl := Option.some.inj found
    subst letter
  · exact ⟨'\x08', by decide, rfl⟩
  · exact ⟨'\x0C', by decide, rfl⟩
  · exact ⟨'\n', by decide, rfl⟩
  · exact ⟨'\r', by decide, rfl⟩
  · exact ⟨'\t', by decide, rfl⟩

/-! ## Strings that are skipped -/

theorem skip_plain {octet : UInt8} (plain : IsPlain octet) (rest : Bytes) :
    skip (octet :: rest) = skip rest := by
  obtain ⟨no_quote, no_solidus, no_control⟩ := plain
  rw [skip, if_neg no_quote, if_neg no_solidus, if_neg no_control]

theorem skip_escape {letters rest : Bytes} (skipped : skipEscape letters = .ok rest) :
    skip (solidus :: letters) = skip rest := by
  rw [skip, if_neg (by decide), if_pos rfl]
  split
  · next failed => cases skipped.symm.trans failed
  · next taken =>
      cases skipped.symm.trans taken
      rfl

theorem skipEscape_short {letter : UInt8} {c : Char} (listed : (letter, c) ∈ shortEscapes)
    (rest : Bytes) : skipEscape (letter :: rest) = .ok rest := by
  obtain ⟨no_unit, octet, found, _⟩ := shortEscape?_of_listed listed
  rw [skipEscape, if_neg no_unit, found]
  rfl

theorem skipEscape_unit {digits : Bytes} {value : Nat} (spelt : SpellsUnit digits value)
    (rest : Bytes) : skipEscape (unitMark :: (digits ++ rest)) = .ok rest := by
  rw [skipEscape, if_pos rfl, codeUnit_of_spellsUnit spelt]
  rfl

/-- A string is skipped up to its closing quotation mark. -/
theorem skip_of_isLiteral {literal : Bytes} (isLiteral : IsLiteral literal) (rest : Bytes) :
    skip (literal ++ quote :: rest) = .ok rest := by
  induction isLiteral with
  | nil => rw [List.nil_append, skip, if_pos rfl]
  | plain plain others ih => rw [List.cons_append, skip_plain plain, ih]
  | short listed others ih =>
      rw [List.cons_append, List.cons_append, skip_escape (skipEscape_short listed _), ih]
  | unit spelt others ih =>
      rw [List.cons_append, List.cons_append, List.append_assoc,
        skip_escape (skipEscape_unit spelt _), ih]

theorem exists_of_skipEscape {letters rest : Bytes} (skipped : skipEscape letters = .ok rest) :
    (∃ letter c, (letter, c) ∈ shortEscapes ∧ letters = letter :: rest) ∨
      ∃ digits value, SpellsUnit digits value ∧ letters = unitMark :: (digits ++ rest) := by
  rcases letters with _ | ⟨letter, letters⟩
  · cases skipped
  rw [skipEscape] at skipped
  by_cases unit : letter = unitMark
  · subst unit
    rw [if_pos rfl] at skipped
    rcases taken : codeUnit letters with fault | ⟨value, rest'⟩
    · rw [taken] at skipped
      cases skipped
    · rw [taken] at skipped
      cases skipped
      obtain ⟨digits, rfl, spelt⟩ := exists_of_codeUnit taken
      exact .inr ⟨digits, value, spelt, rfl⟩
  · rw [if_neg unit] at skipped
    cases found : shortEscape? letter with
    | none =>
        rw [found] at skipped
        cases skipped
    | some octet =>
        rw [found] at skipped
        cases skipped
        obtain ⟨c, listed, _⟩ := listed_of_shortEscape? found
        exact .inl ⟨letter, c, listed, rfl⟩

/-- What can be skipped is a string. -/
theorem exists_of_skip {text rest : Bytes} (skipped : skip text = .ok rest) :
    ∃ literal, IsLiteral literal ∧ text = literal ++ quote :: rest := by
  fun_induction skip text with
  | case1 => cases skipped
  | case2 => cases skipped; exact ⟨[], .nil, rfl⟩
  | case3 => cases skipped
  | case4 letters after taken _ ih =>
      obtain ⟨literal, isLiteral, rfl⟩ := ih skipped
      rcases exists_of_skipEscape taken with ⟨letter, c, listed, rfl⟩ |
        ⟨digits, value, spelt, rfl⟩
      · exact ⟨_, .short listed isLiteral, rfl⟩
      · exact ⟨_, .unit spelt isLiteral, by
          simp only [List.cons_append, List.append_assoc]⟩
  | case5 => cases skipped
  | case6 octet text no_quote no_solidus no_control ih =>
      obtain ⟨literal, isLiteral, rfl⟩ := ih skipped
      exact ⟨octet :: literal, .plain ⟨no_quote, no_solidus, no_control⟩ isLiteral, rfl⟩

/-- A string ends at the first quotation mark that is not part of it. -/
theorem isLiteral_unique {literal other rest after : Bytes} (isLiteral : IsLiteral literal)
    (other_isLiteral : IsLiteral other)
    (same : literal ++ quote :: rest = other ++ quote :: after) :
    literal = other ∧ rest = after := by
  have skipped := skip_of_isLiteral isLiteral rest
  rw [same, skip_of_isLiteral other_isLiteral, Except.ok.injEq] at skipped
  subst skipped
  exact ⟨List.append_cancel_right same, rfl⟩

/-! ## Strings that are read -/

theorem octets_plain {octet : UInt8} (plain : IsPlain octet) (rest : Bytes) :
    octets (octet :: rest) = (octets rest).map (octet :: ·) := by
  obtain ⟨no_quote, no_solidus, no_control⟩ := plain
  rw [octets, if_neg no_quote, if_neg no_solidus, if_neg no_control]

theorem octets_escape {letters meant rest : Bytes} (escaped : escape letters = .ok (meant, rest)) :
    octets (solidus :: letters) = (octets rest).map (meant ++ ·) := by
  rw [octets, if_neg (by decide), if_pos rfl]
  split
  · next failed => cases escaped.symm.trans failed
  · next taken =>
      cases escaped.symm.trans taken
      rfl

theorem octets_of_forall_isPlain {bytes : Bytes} (plain : ∀ octet ∈ bytes, IsPlain octet)
    (rest : Bytes) : octets (bytes ++ rest) = (octets rest).map (bytes ++ ·) :=
  (standsFor_of_forall_isPlain plain rest).1

theorem escape_short {letter : UInt8} {c : Char} (listed : (letter, c) ∈ shortEscapes)
    (rest : Bytes) : escape (letter :: rest) = .ok (String.utf8EncodeChar c, rest) := by
  obtain ⟨no_unit, octet, found, encoded⟩ := shortEscape?_of_listed listed
  rw [escape, if_neg no_unit, found, encoded]

/-- A code unit that is no surrogate means its character. -/
theorem escape_unit {digits : Bytes} {c : Char} (spelt : SpellsUnit digits c.toNat)
    (rest : Bytes) :
    escape (unitMark :: (digits ++ rest)) = .ok (String.utf8EncodeChar c, rest) := by
  have valid : c.toNat < 0xD800 ∨ 0xDFFF < c.toNat ∧ c.toNat < 0x110000 := c.valid
  have no_trailing : (0xDC00 ≤ c.toNat && c.toNat ≤ 0xDFFF) = false := by
    simp
    omega
  have no_leading : (0xD800 ≤ c.toNat && c.toNat ≤ 0xDBFF) = false := by
    simp
    omega
  rw [escape, if_pos rfl, codeUnit_of_spellsUnit spelt]
  simp only [no_trailing, no_leading, Bool.false_eq_true, if_false, Char.ofNat_toNat]

/-- A pair of surrogates means the character that it encodes. -/
theorem escape_pair {leading trailing : Bytes} {c : Char} (high : 0x10000 ≤ c.toNat)
    (leads : SpellsUnit leading (0xD800 + (c.toNat - 0x10000) / 0x400))
    (trails : SpellsUnit trailing (0xDC00 + (c.toNat - 0x10000) % 0x400)) (rest : Bytes) :
    escape (unitMark :: (leading ++ solidus :: unitMark :: (trailing ++ rest))) =
      .ok (String.utf8EncodeChar c, rest) := by
  have small : c.toNat < 0x110000 := by
    have valid : c.toNat < 0xD800 ∨ 0xDFFF < c.toNat ∧ c.toNat < 0x110000 := c.valid
    omega
  have value_eq : 0x10000 + (0xD800 + (c.toNat - 0x10000) / 0x400 - 0xD800) * 0x400 +
      (0xDC00 + (c.toNat - 0x10000) % 0x400 - 0xDC00) = c.toNat := by
    omega
  generalize first_eq : 0xD800 + (c.toNat - 0x10000) / 0x400 = first at *
  generalize second_eq : 0xDC00 + (c.toNat - 0x10000) % 0x400 = second at *
  have no_trailing : (0xDC00 ≤ first && first ≤ 0xDFFF) = false := by
    simp
    omega
  have is_leading : (0xD800 ≤ first && first ≤ 0xDBFF) = true := by
    simp
    omega
  have is_trailing : (0xDC00 ≤ second && second ≤ 0xDFFF) = true := by
    simp
    omega
  rw [escape, if_pos rfl, codeUnit_of_spellsUnit leads]
  simp only [no_trailing, is_leading, Bool.false_eq_true, if_false, if_true, pairWith,
    codeUnit_of_spellsUnit trails, is_trailing, value_eq, Char.ofNat_toNat]

theorem octets_of_spellsChar {spelt : Bytes} {c : Char} (spells : SpellsChar spelt c)
    (rest : Bytes) :
    octets (spelt ++ rest) = (octets rest).map (String.utf8EncodeChar c ++ ·) := by
  cases spells with
  | raw no_quote no_solidus no_control =>
      exact octets_of_forall_isPlain (isPlain_of_mem_encoded no_quote no_solidus no_control) rest
  | short listed => exact octets_escape (escape_short listed rest)
  | unit spelt => exact octets_escape (escape_unit spelt rest)
  | pair high leads trails =>
      rw [List.cons_append, List.cons_append, List.append_assoc, List.cons_append, List.cons_append]
      exact octets_escape (escape_pair high leads trails rest)

/-- A string that spells a text is read for it. -/
theorem read_of_literal {literal : Bytes} {text : List Char} (spells : Literal literal text)
    (rest : Bytes) : read (literal ++ quote :: rest) = .ok text := by
  have octets_eq : octets (literal ++ quote :: rest) = .ok (Bytes.ofChars text) := by
    induction spells with
    | nil => rw [List.nil_append, octets, if_pos rfl, Bytes.ofChars_nil]
    | cons first others ih =>
        rw [List.append_assoc, octets_of_spellsChar first, ih, Bytes.ofChars_cons]
        rfl
  rw [read, octets_eq]
  simp only [Utf8.decode?_ofChars]

theorem lt_of_spellsHex {octet : UInt8} {value : Nat} (spelt : SpellsHex octet value) :
    value < 16 := by
  rcases spelt with found | found
  · exact (List.getElem?_eq_some_iff.mp found).1
  · exact (List.getElem?_eq_some_iff.mp found).1

theorem lt_of_spellsUnit {digits : Bytes} {value : Nat} (spelt : SpellsUnit digits value) :
    value < 0x10000 := by
  cases spelt with
  | digits first second third fourth =>
      have := lt_of_spellsHex first
      have := lt_of_spellsHex second
      have := lt_of_spellsHex third
      have := lt_of_spellsHex fourth
      omega

theorem toNat_ofNat_of_valid {value : Nat} (valid : value.isValidChar) :
    (Char.ofNat value).toNat = value :=
  Utf8.toNat_val_ofNat valid

/-- The trailing half of a pair, with its escape. -/
theorem exists_of_pairWith {leading : Nat} {text rest : Bytes} {c : Char}
    (paired : pairWith leading text = .ok (c, rest)) :
    ∃ digits trailing, text = solidus :: unitMark :: (digits ++ rest) ∧
      SpellsUnit digits trailing ∧ 0xDC00 ≤ trailing ∧ trailing ≤ 0xDFFF ∧
      c = Char.ofNat (0x10000 + (leading - 0xD800) * 0x400 + (trailing - 0xDC00)) := by
  rcases text with _ | ⟨first, _ | ⟨second, text⟩⟩
  · cases paired
  · rw [pairWith] at paired
    split at paired <;> cases paired
  rw [pairWith] at paired
  by_cases escaped : first = solidus ∧ second = unitMark
  · obtain ⟨rfl, rfl⟩ := escaped
    rw [if_pos rfl, if_pos rfl] at paired
    rcases taken : codeUnit text with fault | ⟨trailing, after⟩
    · rw [taken] at paired
      cases paired
    · simp only [taken] at paired
      by_cases within : (0xDC00 ≤ trailing && trailing ≤ 0xDFFF) = true
      · rw [if_pos within, Except.ok.injEq, Prod.mk.injEq] at paired
        obtain ⟨c_eq, rfl⟩ := paired
        obtain ⟨digits, rfl, spelt⟩ := exists_of_codeUnit taken
        rw [Bool.and_eq_true, decide_eq_true_eq, decide_eq_true_eq] at within
        exact ⟨digits, trailing, rfl, spelt, within.1, within.2, c_eq.symm⟩
      · rw [if_neg within] at paired
        cases paired
  · by_cases first_eq : first = solidus
    · rw [if_pos first_eq, if_neg (fun second_eq => escaped ⟨first_eq, second_eq⟩)] at paired
      cases paired
    · rw [if_neg first_eq] at paired
      cases paired

/-- A leading half and the trailing half after it spell a character. -/
theorem exists_spellsChar_of_pairWith {leading : Nat} {digits text rest : Bytes} {c : Char}
    (spelt : SpellsUnit digits leading) (least : 0xD800 ≤ leading) (most : leading ≤ 0xDBFF)
    (paired : pairWith leading text = .ok (c, rest)) :
    ∃ trail, text = trail ++ rest ∧ SpellsChar (solidus :: unitMark :: (digits ++ trail)) c := by
  obtain ⟨more, trailing, rfl, more_spelt, above, below, c_eq⟩ := exists_of_pairWith paired
  have valid : (0x10000 + (leading - 0xD800) * 0x400 + (trailing - 0xDC00)).isValidChar := by
    unfold Nat.isValidChar
    omega
  have value_eq := toNat_ofNat_of_valid valid
  rw [← c_eq] at value_eq
  refine ⟨solidus :: unitMark :: more, rfl, ?_⟩
  apply SpellsChar.pair
  · omega
  · convert spelt using 1
    omega
  · convert more_spelt using 1
    omega

/-- What an escape with digits means is a character that it spells. -/
theorem exists_of_unitEscape {text meant rest : Bytes}
    (escaped : escape (unitMark :: text) = .ok (meant, rest)) :
    ∃ spelt c, text = spelt ++ rest ∧ SpellsChar (solidus :: unitMark :: spelt) c ∧
      meant = String.utf8EncodeChar c := by
  rw [escape, if_pos rfl] at escaped
  rcases taken : codeUnit text with fault | ⟨value, after⟩
  · rw [taken] at escaped
    cases escaped
  obtain ⟨digits, rfl, spelt⟩ := exists_of_codeUnit taken
  have small := lt_of_spellsUnit spelt
  simp only [taken, Bool.and_eq_true, decide_eq_true_eq] at escaped
  split_ifs at escaped with trails leads
  · rcases paired : pairWith value after with fault | ⟨c, behind⟩
    · simp only [paired, reduceCtorEq] at escaped
    · simp only [paired, Except.ok.injEq, Prod.mk.injEq] at escaped
      obtain ⟨rfl, rfl⟩ := escaped
      obtain ⟨trail, rfl, spells⟩ :=
        exists_spellsChar_of_pairWith spelt leads.1 leads.2 paired
      exact ⟨digits ++ trail, c, (List.append_assoc _ _ _).symm, spells, rfl⟩
  · obtain ⟨rfl, rfl⟩ := Prod.mk.inj (Except.ok.inj escaped)
    refine ⟨digits, Char.ofNat value, rfl, .unit ?_, rfl⟩
    have valid : value.isValidChar := by
      unfold Nat.isValidChar
      omega
    rw [toNat_ofNat_of_valid valid]
    exact spelt

/-- What an escape means is a character that it spells. -/
theorem exists_of_escape {letters meant rest : Bytes}
    (escaped : escape letters = .ok (meant, rest)) :
    ∃ spelt c, letters = spelt ++ rest ∧ SpellsChar (solidus :: spelt) c ∧
      meant = String.utf8EncodeChar c := by
  rcases letters with _ | ⟨letter, text⟩
  · cases escaped
  by_cases unit : letter = unitMark
  · subst unit
    obtain ⟨spelt, c, rfl, spells, meant_eq⟩ := exists_of_unitEscape escaped
    exact ⟨unitMark :: spelt, c, rfl, spells, meant_eq⟩
  · rw [escape, if_neg unit] at escaped
    cases found : shortEscape? letter with
    | none =>
        rw [found] at escaped
        cases escaped
    | some octet =>
        rw [found] at escaped
        cases escaped
        obtain ⟨c, listed, encoded⟩ := listed_of_shortEscape? found
        exact ⟨[letter], c, rfl, .short listed, encoded.symm⟩

/-- How a string begins: with its end, with an escape, or with an octet that means itself. -/
theorem octets_cases {text meant : Bytes} (octets_eq : octets text = .ok meant) :
    (∃ rest, text = quote :: rest ∧ meant = []) ∨
      (∃ spelt c rest more, text = spelt ++ rest ∧ SpellsChar spelt c ∧ octets rest = .ok more ∧
        meant = String.utf8EncodeChar c ++ more) ∨
      ∃ octet rest more, text = octet :: rest ∧ IsPlain octet ∧ octets rest = .ok more ∧
        meant = octet :: more := by
  rcases text with _ | ⟨octet, rest⟩
  · rw [octets] at octets_eq
    cases octets_eq
  by_cases ends : octet = quote
  · rw [octets, if_pos ends] at octets_eq
    exact .inl ⟨rest, by rw [ends], (Except.ok.inj octets_eq).symm⟩
  by_cases escapes : octet = solidus
  · subst escapes
    rcases escaped : escape rest with fault | ⟨escape_meant, after⟩
    · rw [octets, if_neg ends, if_pos rfl] at octets_eq
      split at octets_eq
      · cases octets_eq
      · next taken => cases escaped.symm.trans taken
    · rw [octets_escape escaped] at octets_eq
      obtain ⟨more, more_eq, rfl⟩ := exists_of_map octets_eq
      obtain ⟨spelt, c, rfl, spells, rfl⟩ := exists_of_escape escaped
      exact .inr (.inl ⟨_, c, after, more, rfl, spells, more_eq, rfl⟩)
  by_cases control : octet < 0x20
  · rw [octets, if_neg ends, if_neg escapes, if_pos control] at octets_eq
    cases octets_eq
  · rw [octets_plain ⟨ends, escapes, control⟩] at octets_eq
    obtain ⟨more, more_eq, rfl⟩ := exists_of_map octets_eq
    exact .inr (.inr ⟨octet, rest, more, rfl, ⟨ends, escapes, control⟩, more_eq, rfl⟩)

/-- No escape means a continuation, so that continuations stand in the string themselves. -/
theorem exists_of_octets_continuations {tail more : Bytes}
    (continuations : ∀ octet ∈ tail, Utf8.isContinuation octet = true) {text : Bytes}
    (octets_eq : octets text = .ok (tail ++ more)) :
    ∃ rest, text = tail ++ rest ∧ octets rest = .ok more := by
  induction tail generalizing text with
  | nil => exact ⟨text, rfl, octets_eq⟩
  | cons first tail ih =>
      obtain ⟨continues, others⟩ := List.forall_mem_cons.mp continuations
      rcases octets_cases octets_eq with ⟨_, _, meant_eq⟩ | ⟨_, c, _, after, _, _, _, meant_eq⟩ |
        ⟨octet, rest, after, rfl, _, rest_eq, meant_eq⟩
      · cases meant_eq
      · have starts := Utf8.isBoundary_encoded_append c after first
          (by rw [← meant_eq]; rfl)
        rw [continues] at starts
        cases starts
      · obtain ⟨rfl, rfl⟩ := List.cons.inj meant_eq
        obtain ⟨after, rfl, after_eq⟩ := ih others rest_eq
        exact ⟨after, rfl, after_eq⟩

/-- A text that begins with the octets of a character begins with the character. -/
theorem exists_of_encoded_append {c : Char} {more : Bytes} {text : List Char}
    (same : String.utf8EncodeChar c ++ more = Bytes.ofChars text) :
    ∃ others, text = c :: others ∧ more = Bytes.ofChars others := by
  have decoded := Utf8.decode?_eq_some_iff.mpr same
  rw [Utf8.decode?, Utf8.units_encoded, List.mapM_cons] at decoded
  obtain ⟨_, c_eq, others_decoded⟩ := Option.bind_eq_some_iff.mp decoded
  obtain ⟨others, others_eq, text_eq⟩ := Option.bind_eq_some_iff.mp others_decoded
  obtain rfl := Option.some.inj c_eq
  obtain rfl := Option.some.inj text_eq
  exact ⟨others, rfl, Utf8.decode?_eq_some_iff.mp others_eq⟩

/-- A character whose first octet means itself needs no escape. -/
theorem spellsChar_of_isPlain {octet : UInt8} {tail : Bytes} {c : Char}
    (encoded : String.utf8EncodeChar c = octet :: tail) (plain : IsPlain octet) :
    SpellsChar (String.utf8EncodeChar c) c := by
  obtain ⟨no_quote, no_solidus, no_control⟩ := plain
  refine .raw ?_ ?_ ?_
  · rintro rfl
    exact no_quote (List.cons.inj encoded).1.symm
  · rintro rfl
    exact no_solidus (List.cons.inj encoded).1.symm
  · intro control
    rw [encoded_of_lt (by omega)] at encoded
    rw [← (List.cons.inj encoded).1, UInt8.lt_iff_toNat_lt, Utf8.toNat_ofNat (by omega)]
      at no_control
    exact no_control control

/-- A string that is read spells the text. -/
theorem exists_of_octets {source : Bytes} {text : List Char}
    (octets_eq : octets source = .ok (Bytes.ofChars text)) :
    ∃ literal rest, Literal literal text ∧ source = literal ++ quote :: rest := by
  induction text generalizing source with
  | nil =>
      rcases octets_cases octets_eq with ⟨rest, rfl, _⟩ | ⟨_, c, _, more, _, _, _, meant_eq⟩ |
        ⟨_, _, _, _, _, _, meant_eq⟩
      · exact ⟨[], rest, .nil, rfl⟩
      · cases exists_of_encoded_append meant_eq.symm |>.choose_spec.1
      · cases meant_eq
  | cons c text ih =>
      obtain ⟨first, tail, encoded, _⟩ := Utf8.unit_encoded c []
      rcases octets_cases octets_eq with ⟨_, _, meant_eq⟩ |
        ⟨spelt, d, rest, more, rfl, spells, more_eq, meant_eq⟩ |
        ⟨octet, rest, more, rfl, plain, more_eq, meant_eq⟩
      · rw [Bytes.ofChars_cons, encoded] at meant_eq
        cases meant_eq
      · obtain ⟨others, text_eq, rfl⟩ := exists_of_encoded_append meant_eq.symm
        obtain ⟨rfl, rfl⟩ := List.cons.inj text_eq
        obtain ⟨literal, after, others_spelt, rfl⟩ := ih more_eq
        exact ⟨spelt ++ literal, after, .cons spells others_spelt, (List.append_assoc ..).symm⟩
      · rw [Bytes.ofChars_cons, encoded, List.cons_append] at meant_eq
        obtain ⟨rfl, rfl⟩ := List.cons.inj meant_eq
        have continuations := Utf8.isContinuation_tail c
        rw [encoded, List.tail_cons] at continuations
        obtain ⟨after, rfl, after_eq⟩ := exists_of_octets_continuations continuations more_eq
        obtain ⟨literal, rest, others_spelt, rfl⟩ := ih after_eq
        refine ⟨_, rest, .cons (spellsChar_of_isPlain encoded plain) others_spelt, ?_⟩
        rw [encoded, List.append_assoc]
        rfl

/-- Exactly the strings that spell a text are read, and for that text. -/
theorem read_eq_ok_iff {source : Bytes} {text : List Char} :
    read source = .ok text ↔
      ∃ literal rest, Literal literal text ∧ source = literal ++ quote :: rest := by
  constructor
  · intro read_eq
    rw [read] at read_eq
    rcases octets_eq : octets source with fault | spelt
    · rw [octets_eq] at read_eq
      cases read_eq
    · cases decoded : Utf8.decode? spelt with
      | none =>
          simp only [octets_eq, decoded, reduceCtorEq] at read_eq
      | some chars =>
          simp only [octets_eq, decoded, Except.ok.injEq] at read_eq
          subst read_eq
          rw [Utf8.decode?_eq_some_iff.mp decoded] at octets_eq
          exact exists_of_octets octets_eq
  · rintro ⟨literal, rest, spells, rfl⟩
    exact read_of_literal spells rest

/-! ## Strings that spell a text have the form of a string -/

theorem isLiteral_of_forall_isPlain {bytes rest : Bytes} (plain : ∀ octet ∈ bytes, IsPlain octet)
    (others : IsLiteral rest) : IsLiteral (bytes ++ rest) := by
  induction bytes with
  | nil => exact others
  | cons octet bytes ih =>
      obtain ⟨first, more⟩ := List.forall_mem_cons.mp plain
      exact .plain first (ih more)

end RemoteTail.Json.Quoted

namespace RemoteTail.Json

open Quoted

theorem Literal.isLiteral {literal : Bytes} {text : List Char} (spells : Literal literal text) :
    IsLiteral literal := by
  induction spells with
  | nil => exact .nil
  | cons first others ih =>
      cases first with
      | raw no_quote no_solidus no_control =>
          exact isLiteral_of_forall_isPlain
            (isPlain_of_mem_encoded no_quote no_solidus no_control) ih
      | short listed => exact .short listed ih
      | unit spelt => exact .unit spelt ih
      | pair high leads trails =>
          rw [List.cons_append, List.cons_append, List.append_assoc]
          exact .unit leads (.unit trails ih)

/-- A string spells at most one text. -/
theorem Literal.unique {literal : Bytes} {text other : List Char} (spells : Literal literal text)
    (other_spells : Literal literal other) : text = other :=
  Except.ok.inj ((read_of_literal spells []).symm.trans (read_of_literal other_spells []))

/-- A string is read exactly for the text that it spells. -/
theorem IsLiteral.read_eq_ok_iff {literal : Bytes} {text : List Char}
    (isLiteral : IsLiteral literal) (rest : Bytes) :
    read (literal ++ quote :: rest) = .ok text ↔ Literal literal text := by
  rw [Quoted.read_eq_ok_iff]
  constructor
  · rintro ⟨other, after, spells, same⟩
    obtain ⟨rfl, _⟩ := isLiteral_unique isLiteral spells.isLiteral same
    exact spells
  · intro spells
    exact ⟨literal, rest, spells, rfl⟩

/-- What is skipped up to the end has the form of the inside of a string. -/
theorem isLiteral_of_skip {literal : Bytes} (skipped : skip (literal ++ [quote]) = .ok []) :
    IsLiteral literal := by
  obtain ⟨form, isLiteral, literal_eq⟩ := exists_of_skip skipped
  obtain rfl := (List.append_cancel_right_eq ..).mp literal_eq
  exact isLiteral

/-- What is read up to its end spells the text that it is read for. -/
theorem literal_of_read {literal : Bytes} {text : List Char}
    (skipped : skip (literal ++ [quote]) = .ok [])
    (read_eq : read (literal ++ [quote]) = .ok text) : Literal literal text :=
  ((isLiteral_of_skip skipped).read_eq_ok_iff []).mp read_eq

end RemoteTail.Json

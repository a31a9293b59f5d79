import RemoteTail.Proofs.Json.Literals
import RemoteTail.Proofs.Json.NumberForms
import RemoteTail.Proofs.Json.Tokens

/-!
# Tokens and the octets that they stand for

A token that can be skipped stands for a mark, a word, a number or a string
(`Lexed`).  Such octets are the token that comes first, whatever white space
stands before them (`tokens_of_lexed`), and every token that can be skipped comes
from such octets (`exists_lexed`).
-/

namespace RemoteTail.Json

variable {token : Token} {text rest space source : Bytes}

/-- A token stands for octets, where the given octets follow them. -/
inductive Lexed : Token → Bytes → Bytes → Prop where
  /-- A bracket, a comma or a colon. -/
  | mark {octet : UInt8} {token : Token} {rest : Bytes} (isMark : mark? octet = some token) :
      Lexed token [octet] rest
  /-- A word. -/
  | word {text rest : Bytes} (isWord : IsWord text) : Lexed (.word (.ok ())) text rest
  /-- A number. -/
  | number {text rest : Bytes} (isNumber : IsNumber text)
      (taken : Number.skip (text ++ rest) = .ok rest) :
      Lexed (.number (Number.read (text ++ rest)) (.ok ())) text rest
  /-- A string. -/
  | text {literal rest : Bytes} (isLiteral : IsLiteral literal) :
      Lexed (.text (Quoted.read (literal ++ Quoted.quote :: rest)) (.ok ())) (quoted literal) rest

/-- Whether a token can be skipped. -/
def Token.IsSkippable : Token → Prop
  | .word verdict => verdict = .ok ()
  | .number _ verdict => verdict = .ok ()
  | .text _ verdict => verdict = .ok ()
  | .junk => False
  | _ => True

/-! ## From octets to tokens -/

theorem isSpace_of_mark? {octet : UInt8} (isMark : mark? octet = some token) :
    isSpace octet = false := by
  by_contra spaced
  rw [Bool.not_eq_false, isSpace, Bool.or_eq_true, Bool.or_eq_true, Bool.or_eq_true,
    decide_eq_true_eq, decide_eq_true_eq, decide_eq_true_eq, decide_eq_true_eq] at spaced
  rcases spaced with ((rfl | rfl) | rfl) | rfl <;> cases isMark

theorem exists_of_isNumber (isNumber : IsNumber text) :
    ∃ first more, text = first :: more ∧ (first = 0x2D ∨ isDigit first = true) := by
  cases isNumber with
  | parts isSign isWhole isFraction isExponent =>
      obtain ⟨first, more, rfl, digit, _⟩ := Number.isNumeral_ne_sign isWhole
      simp only [List.mem_cons, List.not_mem_nil, or_false] at isSign
      rcases isSign with rfl | rfl
      · exact ⟨first, _, rfl, .inr digit⟩
      · exact ⟨0x2D, _, rfl, .inl rfl⟩

/-- A number is neither space nor mark nor word nor string, by its first octet. -/
theorem lexical_of_number {first : UInt8} (begins : first = 0x2D ∨ isDigit first = true) :
    isSpace first = false ∧ mark? first = none ∧ wordTail? first = none ∧ first ≠ Quoted.quote := by
  cases begins with
  | inl minus =>
      subst minus
      exact ⟨rfl, rfl, rfl, by decide⟩
  | inr digit => exact Value.lexical_of_isDigit digit

/-- Octets that a token stands for are that token. -/
theorem tokens_of_lexed (lexed : Lexed token text rest) :
    tokens (text ++ rest) = token :: tokens rest := by
  cases lexed with
  | mark isMark => exact tokens_mark token (isSpace_of_mark? isMark) isMark rest
  | word isWord =>
      have letters (octet : UInt8) (tail : Bytes) (no_space : isSpace octet = false)
          (no_mark : mark? octet = none) (word : wordTail? octet = some tail) :
          tokens (octet :: (tail ++ rest)) = .word (.ok ()) :: tokens rest := by
        apply tokens_of_lexeme no_space
        simp only [lexeme, no_mark, word, Value.skipWord_append]
        rfl
      simp only [IsWord, List.mem_cons, List.not_mem_nil, or_false] at isWord
      rcases isWord with rfl | rfl | rfl
      · exact letters 0x74 (Bytes.ofString "rue") rfl rfl rfl
      · exact letters 0x66 (Bytes.ofString "alse") rfl rfl rfl
      · exact letters 0x6E (Bytes.ofString "ull") rfl rfl rfl
  | number isNumber taken =>
      obtain ⟨first, more, rfl, begins⟩ := exists_of_isNumber isNumber
      obtain ⟨no_space, no_mark, no_word, no_quote⟩ := lexical_of_number begins
      have is_number : (first = 0x2D || isDigit first) = true := by
        rw [Bool.or_eq_true, decide_eq_true_eq]
        exact begins
      rw [List.cons_append] at taken ⊢
      apply tokens_of_lexeme no_space
      simp only [lexeme, no_mark, no_word, if_neg no_quote, if_pos is_number, taken]
      rfl
  | text isLiteral =>
      rw [quoted, List.cons_append, List.append_assoc, List.singleton_append]
      apply tokens_of_lexeme rfl
      have no_mark : mark? Quoted.quote = none := rfl
      have no_word : wordTail? Quoted.quote = none := rfl
      rw [lexeme, no_mark, no_word, Quoted.skip_of_isLiteral isLiteral]
      rfl

/-! ## From tokens to octets -/

theorem isWord_of_skipWord {octet : UInt8} {letters : Bytes} (word : wordTail? octet = some letters)
    (skipped : skipWord letters source = .ok rest) :
    IsWord (octet :: letters) ∧ source = letters ++ rest := by
  have source_eq : source = letters ++ rest := by
    clear word
    fun_induction skipWord letters source with
    | case1 => cases skipped; rfl
    | case2 => cases skipped
    | case3 letter letters source ih => rw [ih skipped, List.cons_append]
    | case4 => cases skipped
  refine ⟨?_, source_eq⟩
  unfold wordTail? at word
  unfold IsWord
  split_ifs at word with null true false
  · subst null
    cases word
    decide
  · subst true
    cases word
    decide
  · subst false
    cases word
    decide

theorem ok_of_verdict {skipped : Except Fault Bytes}
    (verdict : skipped.map (fun _ => ()) = .ok ()) :
    ∃ rest, skipped = .ok rest ∧ skipped.toOption = some rest := by
  obtain ⟨rest, rfl, _⟩ := exists_of_map verdict
  exact ⟨rest, rfl, rfl⟩

/-- A token that can be skipped, and what follows it, come from octets that it stands for. -/
theorem exists_of_lexeme {octet : UInt8}
    (skippable : (lexeme octet source).1.IsSkippable) :
    ∃ text rest, octet :: source = text ++ rest ∧ Lexed (lexeme octet source).1 text rest ∧
      (lexeme octet source).2 = some rest := by
  cases isMark : mark? octet with
  | some token =>
      have lexeme_eq : lexeme octet source = (token, some source) := by
        simp only [lexeme, isMark]
      rw [lexeme_eq]
      exact ⟨[octet], source, rfl, .mark isMark, rfl⟩
  | none =>
  cases word : wordTail? octet with
  | some letters =>
      have lexeme_eq : lexeme octet source =
          (.word ((skipWord letters source).map fun _ => ()),
            (skipWord letters source).toOption) := by
        simp only [lexeme, isMark, word]
      rw [lexeme_eq] at skippable ⊢
      obtain ⟨rest, skipped, after_eq⟩ := ok_of_verdict skippable
      obtain ⟨isWord, rfl⟩ := isWord_of_skipWord word skipped
      rw [skipped] at after_eq ⊢
      exact ⟨octet :: letters, rest, rfl, .word isWord, after_eq⟩
  | none =>
  by_cases begins : octet = Quoted.quote
  · subst begins
    have lexeme_eq : lexeme Quoted.quote source =
        (.text (Quoted.read source) ((Quoted.skip source).map fun _ => ()),
          (Quoted.skip source).toOption) := by
      simp only [lexeme, isMark, word, if_true]
    rw [lexeme_eq] at skippable ⊢
    obtain ⟨rest, skipped, after_eq⟩ := ok_of_verdict skippable
    obtain ⟨literal, isLiteral, rfl⟩ := Quoted.exists_of_skip skipped
    rw [skipped] at after_eq ⊢
    refine ⟨quoted literal, rest, ?_, .text isLiteral, after_eq⟩
    rw [quoted, List.cons_append, List.append_assoc, List.singleton_append]
  by_cases number : (octet = 0x2D || isDigit octet) = true
  · have lexeme_eq : lexeme octet source =
        (.number (Number.read (octet :: source))
          ((Number.skip (octet :: source)).map fun _ => ()),
          (Number.skip (octet :: source)).toOption) := by
      simp only [lexeme, isMark, word, begins, number, if_true, if_false]
    rw [lexeme_eq] at skippable ⊢
    obtain ⟨rest, skipped, after_eq⟩ := ok_of_verdict skippable
    obtain ⟨text, isNumber, text_eq⟩ := Number.exists_of_skip skipped
    rw [text_eq] at skipped after_eq ⊢
    rw [skipped] at after_eq ⊢
    exact ⟨text, rest, rfl, .number isNumber skipped, after_eq⟩
  · have lexeme_eq : lexeme octet source = (.junk, none) := by
      simp only [lexeme, isMark, word, begins, number, Bool.false_eq_true, if_false]
    rw [lexeme_eq] at skippable
    exact absurd skippable id

/-- Where a token comes first that can be skipped, octets come first that it stands for. -/
theorem exists_lexed {after : List Token} (source_eq : tokens source = token :: after)
    (skippable : token.IsSkippable) :
    ∃ space text rest, IsSpaces space ∧ source = space ++ (text ++ rest) ∧
      Lexed token text rest ∧ after = tokens rest := by
  have parts : source.takeWhile isSpace ++ source.dropWhile isSpace = source :=
    List.takeWhile_append_dropWhile
  rw [tokens_eq] at source_eq
  generalize source.dropWhile isSpace = shown at parts source_eq
  rcases shown with _ | ⟨octet, more⟩
  · cases source_eq
  · obtain ⟨rfl, after_eq⟩ := List.cons.inj source_eq
    obtain ⟨text, rest, shown_eq, lexed, taken⟩ := exists_of_lexeme skippable
    refine ⟨source.takeWhile isSpace, text, rest, fun octet => List.mem_takeWhile_imp, ?_, lexed,
      ?_⟩
    · rw [← shown_eq, parts]
    · rw [← after_eq, taken, Option.elim_some]

/-- A text without tokens is white space. -/
theorem isSpaces_of_tokens (nothing : tokens source = []) : IsSpaces source := by
  rw [tokens_eq] at nothing
  split at nothing
  · next spaced => exact List.dropWhile_eq_nil_iff.mp spaced
  · cases nothing

/-! ## Marks -/

/-- The octet of a bracket, a comma or a colon. -/
def markOctet? : Token → Option UInt8
  | .opening .list => some 0x5B
  | .closing .list => some 0x5D
  | .opening .object => some 0x7B
  | .closing .object => some 0x7D
  | .colon => some 0x3A
  | .comma => some 0x2C
  | _ => none

theorem markOctet?_of_mark? {octet : UInt8} (isMark : mark? octet = some token) :
    markOctet? token = some octet := by
  unfold mark? at isMark
  split_ifs at isMark <;> cases isMark <;> subst octet <;> rfl

theorem Lexed.eq_of_mark {octet : UInt8} (lexed : Lexed token text rest)
    (isMark : markOctet? token = some octet) : text = [octet] := by
  cases lexed with
  | mark found => rw [Option.some.inj ((markOctet?_of_mark? found).symm.trans isMark)]
  | word isWord => cases isMark
  | number isNumber taken => cases isMark
  | text isLiteral => cases isMark

/-- Where a mark comes first as a token, its octet comes first, apart from white space. -/
theorem exists_mark {octet : UInt8} {after : List Token}
    (source_eq : tokens source = token :: after) (isMark : markOctet? token = some octet) :
    ∃ space rest, IsSpaces space ∧ source = space ++ octet :: rest ∧ after = tokens rest := by
  have skippable : token.IsSkippable := by
    cases token with
    | opening | closing | colon | comma => exact trivial
    | word | number | text | junk => cases isMark
  obtain ⟨space, text, rest, spaces, rfl, lexed, after_eq⟩ := exists_lexed source_eq skippable
  rw [lexed.eq_of_mark isMark]
  exact ⟨space, rest, spaces, rfl, after_eq⟩

theorem exists_literal_of_lexed {value : Except Fault (List Char)} {verdict : Except Fault Unit}
    {text rest : Bytes} (lexed : Lexed (.text value verdict) text rest) :
    ∃ literal, IsLiteral literal ∧ text = quoted literal ∧
      value = Quoted.read (literal ++ Quoted.quote :: rest) := by
  cases lexed with
  | mark isMark => cases markOctet?_of_mark? isMark
  | text isLiteral => exact ⟨_, isLiteral, rfl, rfl⟩

/-- The tokens that may follow a value inside another one, or none. -/
def Closes (after : List Token) : Prop :=
  ∀ token ∈ after.head?, token = .comma ∨ ∃ shape, token = .closing shape

theorem endsNumber_bracket (rest : Bytes) : EndsNumber (0x5D :: rest) := by
  rintro _ ⟨⟩
  exact ⟨rfl, by decide, rfl⟩

/-! ## Tokens that are read -/

theorem exists_of_lexeme_text {octet : UInt8} {value : Except Fault (List Char)}
    {verdict : Except Fault Unit} (taken : (lexeme octet source).1 = .text value verdict) :
    value = Quoted.read source ∧ verdict = (Quoted.skip source).map fun _ => () := by
  unfold lexeme at taken
  split at taken
  · next isMark =>
      cases taken
      cases markOctet?_of_mark? isMark
  · cases taken
  · split_ifs at taken
    cases taken
    exact ⟨rfl, rfl⟩

theorem exists_of_lexeme_number {octet : UInt8} {value : Except Fault Number}
    {verdict : Except Fault Unit} (taken : (lexeme octet source).1 = .number value verdict) :
    value = Number.read (octet :: source) ∧
      verdict = (Number.skip (octet :: source)).map fun _ => () := by
  unfold lexeme at taken
  split at taken
  · next isMark =>
      cases taken
      cases markOctet?_of_mark? isMark
  · cases taken
  · split_ifs at taken
    cases taken
    exact ⟨rfl, rfl⟩

/-- A string that has a text can be skipped. -/
theorem skippable_of_text {chars : List Char} {verdict : Except Fault Unit} {after : List Token}
    (source_eq : tokens source = .text (.ok chars) verdict :: after) : verdict = .ok () := by
  rw [tokens_eq] at source_eq
  split at source_eq
  · cases source_eq
  · obtain ⟨value_eq, verdict_eq⟩ := exists_of_lexeme_text (List.cons.inj source_eq).1
    obtain ⟨literal, rest, spells, rfl⟩ := Quoted.read_eq_ok_iff.mp value_eq.symm
    rw [verdict_eq, Quoted.skip_of_isLiteral spells.isLiteral]
    rfl

/-- A number that is an integer can be skipped. -/
theorem skippable_of_int {value : Int} {verdict : Except Fault Unit} {after : List Token}
    (source_eq : tokens source = .number (.ok (.int value)) verdict :: after) :
    verdict = .ok () := by
  rw [tokens_eq] at source_eq
  split at source_eq
  · cases source_eq
  · obtain ⟨value_eq, verdict_eq⟩ := exists_of_lexeme_number (List.cons.inj source_eq).1
    obtain ⟨rest, text_eq, ends, _⟩ := Number.read_eq_int_iff.mp value_eq.symm
    rw [verdict_eq, text_eq, Number.skip_of_isNumber (Number.isNumber_intText value) ends]
    rfl

end RemoteTail.Json

import RemoteTail.Json.Token
import RemoteTail.Proofs.Json.Numerals
import RemoteTail.Proofs.Json.Quoted

/-!
# JSON values that are written and read

`Value.ofText?` reads a JSON text, whatever its value is.  It goes by octets,
since a token of a word does not say which word it is.

Octets that spell a value are read for it wherever they stand (`Spells`).
Strings, numerals and objects do so if they have been written; an object is read
for its members in the order in which they have been written (`spells_object`).
-/

namespace RemoteTail.Json

/-- A JSON value.  Numbers are kept as they are spelt. -/
inductive Value where
  /-- The word null. -/
  | null
  /-- One of the words true and false. -/
  | bool (value : Bool)
  /-- A number. -/
  | number (spelling : Bytes)
  /-- A string. -/
  | text (value : List Char)
  /-- A list. -/
  | list (elements : List Value)
  /-- An object, its members in the order in which they come. -/
  | object (members : List (List Char × Value))

/-- A scanner reads what comes first in a text and hands on the rest. -/
abbrev Scanner (α : Type) := Bytes → Option (α × Bytes)

namespace Scanner

variable {α : Type}

/-- The bracket, comma or colon that comes first, apart from white space. -/
def mark : Scanner Token := fun text =>
  match text.dropWhile isSpace with
  | [] => none
  | octet :: rest => (mark? octet).map (·, rest)

/-- A string, after its opening quotation mark. -/
def quoted : Scanner (List Char) := fun text =>
  match Quoted.read text, Quoted.skip text with
  | .ok chars, .ok rest => some (chars, rest)
  | _, _ => none

/-- A number, kept as it is spelt. -/
def number : Scanner Bytes := fun text =>
  match Number.skip text with
  | .ok rest => some (text.take (text.length - rest.length), rest)
  | .error _ => none

/-- A member of an object, whose value is read by `value`. -/
def member (value : Scanner α) : Scanner (List Char × α) := fun text =>
  match text.dropWhile isSpace with
  | [] => none
  | octet :: rest =>
    if octet = Quoted.quote then do
      let (key, rest) ← quoted rest
      match mark rest with
      | some (.colon, rest) => (value rest).map fun (value, rest) => ((key, value), rest)
      | _ => none
    else none

/-- At least one item and at most `limit`, separated by commas, and the bracket that closes them. -/
def items (item : Scanner α) (shape : Shape) : (limit : Nat) → Scanner (List α)
  | 0, _ => none
  | limit + 1, text => do
    let (first, text) ← item text
    match mark text with
    | some (.closing closed, rest) => if closed = shape then some ([first], rest) else none
    | some (.comma, rest) =>
      (items item shape limit rest).map fun (others, rest) => (first :: others, rest)
    | _ => none

/-- The items of brackets, after the opening one. -/
def bracketed (item : Scanner α) (shape : Shape) (limit : Nat) : Scanner (List α) := fun text =>
  match mark text with
  | some (.closing closed, rest) => if closed = shape then some ([], rest) else none
  | _ => items item shape limit text

end Scanner

namespace Value

/-- The value of the word that begins with the given octet. -/
def ofWord (octet : UInt8) : Value :=
  if octet = 0x74 then .bool true else if octet = 0x66 then .bool false else .null

/-- The value that begins with `octet`.  The values inside it are read by `inner`, at most `limit` of
them. -/
def scanFrom (inner : Scanner Value) (limit : Nat) (octet : UInt8) : Scanner Value := fun rest =>
  match mark? octet, wordTail? octet with
  | some (.opening .list), _ =>
    (Scanner.bracketed inner .list limit rest).map fun (elements, rest) => (.list elements, rest)
  | some (.opening .object), _ =>
    (Scanner.bracketed (Scanner.member inner) .object limit rest).map fun (members, rest) =>
      (.object members, rest)
  | some _, _ => none
  | none, some letters => (skipWord letters rest).toOption.map (ofWord octet, ·)
  | none, none =>
    if octet = Quoted.quote then
      (Scanner.quoted rest).map fun (chars, rest) => (.text chars, rest)
    else if octet = 0x2D || isDigit octet then
      (Scanner.number (octet :: rest)).map fun (spelling, rest) => (.number spelling, rest)
    else none

/-- The value that comes first.  Brackets may not lie deeper than `limit`, or hold more items. -/
def scan : (limit : Nat) → Scanner Value
  | 0, _ => none
  | limit + 1, source =>
    match source.dropWhile isSpace with
    | [] => none
    | octet :: rest => scanFrom (scan limit) limit octet rest

/-- The value of a text that is one JSON value and white space.  No text is long enough to reach the
limit. -/
def ofText? (source : Bytes) : Option Value := do
  let (value, rest) ← scan (source.length + 1) source
  if rest.all isSpace then some value else none

/-- The text of a string. -/
def text? : Value → Option (List Char)
  | .text value => some value
  | _ => none

/-- The natural number that a number denotes, if it is spelt with digits only. -/
def natural? : Value → Option Nat
  | .number spelling => (Utf8.decode? spelling).bind Decimal.value?
  | _ => none

/-- The truth value of a word. -/
def bool? : Value → Option Bool
  | .bool value => some value
  | _ => none

/-- Octets spell a value if they are read for it wherever they stand. -/
def Spells (spelt : Bytes) (value : Value) : Prop :=
  ∀ limit rest, spelt.length < limit → EndsNumber rest →
    scan limit (spelt ++ rest) = some (value, rest)

/-! ## Strings, numerals and words -/

theorem scan_cons {octet : UInt8} (no_space : isSpace octet = false) (limit : Nat) (rest : Bytes) :
    scan (limit + 1) (octet :: rest) = scanFrom (scan limit) limit octet rest := by
  rw [scan, List.dropWhile_cons_of_neg (ne_true_of_eq_false no_space)]

/-- To see what octets spell, the limit may be taken for a successor. -/
theorem spells_of_succ {spelt : Bytes} {value : Value}
    (scanned : ∀ limit rest, spelt.length ≤ limit → EndsNumber rest →
      scan (limit + 1) (spelt ++ rest) = some (value, rest)) : Spells spelt value := by
  intro limit rest enough ends
  obtain ⟨limit, rfl⟩ := Nat.exists_eq_add_one_of_ne_zero (Nat.ne_zero_of_lt enough)
  exact scanned limit rest (Nat.le_of_lt_succ enough) ends

/-- A string that has been written is read for its text, up to its closing quotation mark. -/
theorem quoted_written (chars : List Char) (rest : Bytes) :
    Scanner.quoted (Bytes.ofChars (chars.flatMap escape) ++ Quoted.quote :: rest) =
      some (chars, rest) := by
  rw [Scanner.quoted, Quoted.read_written, Quoted.skip_written]

theorem spells_text (chars : List Char) :
    Spells (Bytes.ofChars (stringText chars)) (.text chars) := by
  apply spells_of_succ
  intro limit rest _ _
  rw [Quoted.ofChars_stringText, List.cons_append, List.append_assoc, List.singleton_append,
    scan_cons rfl]
  change (Scanner.quoted _).map _ = _
  rw [quoted_written]
  rfl

theorem lexical_of_isDigit {octet : UInt8} (digit : isDigit octet = true) :
    isSpace octet = false ∧ mark? octet = none ∧ wordTail? octet = none ∧ octet ≠ Quoted.quote := by
  have among : ∃ value < 10, octet = UInt8.ofNat (0x30 + value) := by
    simp only [isDigit, Bool.and_eq_true, decide_eq_true_eq, UInt8.le_iff_toNat_le] at digit
    obtain ⟨above, below⟩ := digit
    change 48 ≤ _ at above
    change _ ≤ 57 at below
    refine ⟨octet.toNat - 48, by omega, ?_⟩
    rw [Nat.add_sub_cancel' above, UInt8.ofNat_toNat]
  obtain ⟨value, small, rfl⟩ := among
  interval_cases value <;> exact ⟨rfl, rfl, rfl, by decide⟩

theorem spells_digits (value : Nat) :
    Spells (Bytes.ofChars (Decimal.digits value))
      (.number (Bytes.ofChars (Decimal.digits value))) := by
  apply spells_of_succ
  intro limit rest _ ends
  have skipped := Number.skip_digits value ends
  obtain ⟨first, more, digits_eq, digit, _⟩ := ofChars_digits value
  obtain ⟨no_space, no_mark, no_word, no_quote⟩ := lexical_of_isDigit digit
  rw [digits_eq, List.cons_append] at skipped ⊢
  have length_eq : (first :: (more ++ rest)).length - rest.length = (first :: more).length := by
    rw [← List.cons_append, List.length_append, Nat.add_sub_cancel]
  rw [scan_cons no_space, scanFrom, no_mark, no_word]
  simp only [if_neg no_quote, digit, Bool.or_true, if_true, Scanner.number, skipped, length_eq,
    Option.map_some]
  rw [← List.cons_append, List.take_left]

@[simp]
theorem natural?_digits (value : Nat) :
    natural? (.number (Bytes.ofChars (Decimal.digits value))) = some value := by
  simp [natural?, Decimal.value?_digits]

theorem skipWord_append (letters rest : Bytes) : skipWord letters (letters ++ rest) = .ok rest := by
  induction letters with
  | nil => rfl
  | cons letter letters ih => rw [List.cons_append, skipWord, if_pos rfl, ih]

theorem spells_true : Spells (Bytes.ofChars "true".toList) (.bool true) := by
  apply spells_of_succ
  intro limit rest _ _
  have spelt : Bytes.ofChars "true".toList = 0x74 :: Bytes.ofString "rue" := by decide
  have no_mark : mark? 0x74 = none := rfl
  have word : wordTail? 0x74 = some (Bytes.ofString "rue") := rfl
  rw [spelt, List.cons_append, scan_cons rfl, scanFrom, no_mark, word]
  simp only [skipWord_append]
  rfl

/-! ## Objects -/

/-- A member as it is written. -/
def memberText (entry : String × List Char) : List Char :=
  stringText entry.1.toList ++ ':' :: entry.2

/-- A member has been written for a key and a value. -/
def SpellsMember (entry : String × List Char) (member : List Char × Value) : Prop :=
  member.1 = entry.1.toList ∧ Spells (Bytes.ofChars entry.2) member.2

theorem objectText_eq (entries : List (String × List Char)) :
    objectText entries = '\x7b' :: (commaSeparated (entries.map memberText) ++ ['\x7d']) :=
  rfl

theorem endsNumber_comma (rest : Bytes) : EndsNumber (0x2C :: rest) := by
  rintro _ ⟨⟩
  exact ⟨rfl, by decide, rfl⟩

theorem endsNumber_closing (rest : Bytes) : EndsNumber (0x7D :: rest) := by
  rintro _ ⟨⟩
  exact ⟨rfl, by decide, rfl⟩

variable {entry : String × List Char} {member : List Char × Value}
  {entries : List (String × List Char)} {members : List (List Char × Value)} {limit : Nat}
  {rest : Bytes}

theorem ofChars_memberText (entry : String × List Char) :
    Bytes.ofChars (memberText entry) =
      Quoted.quote :: (Bytes.ofChars (entry.1.toList.flatMap escape) ++
        Quoted.quote :: 0x3A :: Bytes.ofChars entry.2) := by
  rw [memberText, Bytes.ofChars_append, Quoted.ofChars_stringText, Bytes.ofChars_cons,
    List.cons_append, List.append_assoc]
  rfl

theorem member_written (spells : SpellsMember entry member)
    (enough : (Bytes.ofChars (memberText entry)).length < limit) (ends : EndsNumber rest) :
    Scanner.member (scan limit) (Bytes.ofChars (memberText entry) ++ rest) =
      some (member, rest) := by
  obtain ⟨key, value⟩ := member
  obtain ⟨rfl, value_spelt⟩ := spells
  rw [ofChars_memberText] at enough ⊢
  simp only [List.length_cons, List.length_append] at enough
  have scanned := value_spelt limit rest (by omega) ends
  have colon : ∀ after, Scanner.mark (0x3A :: after) = some (.colon, after) := fun _ => rfl
  rw [List.cons_append, List.append_assoc, List.cons_append, List.cons_append, Scanner.member,
    List.dropWhile_cons_of_neg (by decide)]
  simp only [if_true, quoted_written, colon, scanned, Option.bind_eq_bind, Option.bind_some,
    Option.map_some]

theorem ofChars_commaSeparated (item next : List Char) (items : List (List Char)) :
    Bytes.ofChars (commaSeparated (item :: next :: items)) =
      Bytes.ofChars item ++ 0x2C :: Bytes.ofChars (commaSeparated (next :: items)) := by
  rw [commaSeparated, Bytes.ofChars_append, Bytes.ofChars_cons]
  · rfl
  · exact List.cons_ne_nil _ _

section

variable {α : Type} {item : Scanner α} {value : α} {values : List α} {budget : Nat}
  {source after : Bytes}

theorem items_of_closing (scanned : item source = some (value, 0x7D :: rest)) :
    Scanner.items item .object (budget + 1) source = some ([value], rest) := by
  have closing : Scanner.mark (0x7D :: rest) = some (.closing .object, rest) := rfl
  rw [Scanner.items, scanned]
  simp only [Option.bind_eq_bind, Option.bind_some, closing, if_true]

theorem items_of_comma (scanned : item source = some (value, 0x2C :: after))
    (others : Scanner.items item .object budget after = some (values, rest)) :
    Scanner.items item .object (budget + 1) source = some (value :: values, rest) := by
  have comma : Scanner.mark (0x2C :: after) = some (.comma, after) := rfl
  rw [Scanner.items, scanned]
  simp only [Option.bind_eq_bind, Option.bind_some, comma, others, Option.map_some]

end

/-- Members that have been written are read one after another, up to the bracket that closes them. -/
theorem items_written (spells : List.Forall₂ SpellsMember entries members) (filled : entries ≠ [])
    {budget : Nat}
    (enough : (Bytes.ofChars (commaSeparated (entries.map memberText))).length < limit)
    (affords : (Bytes.ofChars (commaSeparated (entries.map memberText))).length ≤ budget) :
    Scanner.items (Scanner.member (scan limit)) .object budget
        (Bytes.ofChars (commaSeparated (entries.map memberText)) ++ 0x7D :: rest) =
      some (members, rest) := by
  induction spells generalizing budget with
  | nil => exact absurd rfl filled
  | @cons entry member entries members first others ih =>
      -- Every member takes an octet at least, so that there is a limit left for the others.
      have positive : 0 < (Bytes.ofChars (memberText entry)).length := by
        rw [ofChars_memberText]
        exact Nat.zero_lt_succ _
      cases entries with
      | nil =>
          cases others
          rw [List.map_cons, List.map_nil, commaSeparated] at enough affords ⊢
          obtain ⟨budget, rfl⟩ := Nat.exists_eq_add_one_of_ne_zero
            (Nat.ne_zero_of_lt (Nat.lt_of_lt_of_le positive affords))
          exact items_of_closing (member_written first enough (endsNumber_closing rest))
      | cons next entries =>
          simp only [List.map_cons] at ih enough affords ⊢
          rw [ofChars_commaSeparated, List.length_append, List.length_cons] at enough affords
          obtain ⟨budget, rfl⟩ := Nat.exists_eq_add_one_of_ne_zero (show budget ≠ 0 by omega)
          have remaining := @ih (List.cons_ne_nil _ _) budget (by omega) (by omega)
          rw [ofChars_commaSeparated, List.append_assoc, List.cons_append]
          apply items_of_comma
          · exact member_written first (by omega) (endsNumber_comma _)
          · exact remaining

/-- Members begin with the quotation mark of the first key. -/
theorem exists_commaSeparated_eq (entry : String × List Char)
    (others : List (String × List Char)) :
    ∃ more, Bytes.ofChars (commaSeparated ((entry :: others).map memberText)) =
      Quoted.quote :: more := by
  cases others with
  | nil => exact ⟨_, ofChars_memberText entry⟩
  | cons next others =>
      rw [List.map_cons, List.map_cons, ofChars_commaSeparated, ofChars_memberText]
      exact ⟨_, rfl⟩

/-- An object is read for its members, in the order in which they have been written. -/
theorem spells_object (spells : List.Forall₂ SpellsMember entries members) :
    Spells (Bytes.ofChars (objectText entries)) (.object members) := by
  apply spells_of_succ
  intro limit rest enough _
  have written : Bytes.ofChars (objectText entries) =
      0x7B :: (Bytes.ofChars (commaSeparated (entries.map memberText)) ++ [0x7D]) := by
    rw [objectText_eq, Bytes.ofChars_cons, Bytes.ofChars_append]
    rfl
  have opening : mark? 0x7B = some (.opening .object) := rfl
  rw [written, List.length_cons, List.length_append, List.length_singleton] at enough
  rw [written, List.cons_append, List.append_assoc, List.singleton_append, scan_cons rfl, scanFrom,
    opening]
  suffices bracketed : Scanner.bracketed (Scanner.member (scan limit)) .object limit
      (Bytes.ofChars (commaSeparated (entries.map memberText)) ++ 0x7D :: rest) =
        some (members, rest) by
    simp only [bracketed, Option.map_some]
  cases entries with
  | nil =>
      cases spells
      rfl
  | cons entry others =>
      obtain ⟨more, begins⟩ := exists_commaSeparated_eq entry others
      have no_mark : ∀ after, Scanner.mark (Quoted.quote :: after) = none := fun _ => rfl
      have items := @items_written _ _ limit rest spells (List.cons_ne_nil _ _) limit (by omega)
        (by omega)
      rw [begins, List.cons_append] at items ⊢
      rw [Scanner.bracketed, no_mark]
      exact items

theorem endsNumber_of_spaces {space : Bytes} (spaces : ∀ octet ∈ space, isSpace octet = true) :
    EndsNumber space := by
  intro octet first
  have space := spaces octet (List.mem_of_mem_head? first)
  simp only [isSpace, Bool.or_eq_true, decide_eq_true_eq] at space
  rcases space with ((rfl | rfl) | rfl) | rfl <;> exact ⟨rfl, by decide, rfl⟩

/-- What spells a value is a text of that value, whatever white space comes after it. -/
theorem Spells.ofText? {spelt space : Bytes} {value : Value} (spells : Spells spelt value)
    (spaces : ∀ octet ∈ space, isSpace octet = true) : ofText? (spelt ++ space) = some value := by
  have ends := endsNumber_of_spaces spaces
  have enough : spelt.length < (spelt ++ space).length + 1 := by
    rw [List.length_append]
    omega
  have all_spaces : space.all isSpace = true := List.all_eq_true.mpr spaces
  simp only [Value.ofText?, spells _ space enough ends, Option.bind_eq_bind, Option.bind_some,
    all_spaces, if_true]

example : ofText? (Bytes.ofString " [1, [null]]\n") =
    some (.list [.number [0x31], .list [.null]]) :=
  rfl

example : (ofText? (Bytes.ofString "[1,]")).isNone :=
  rfl

end Value

end RemoteTail.Json

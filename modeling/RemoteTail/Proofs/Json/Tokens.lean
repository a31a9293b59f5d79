import Mathlib.Data.List.TakeWhile
import RemoteTail.Json.Record
import RemoteTail.Proofs.Json.Value

/-!
# Records that are written and read

A record is read from the tokens of its text.  Octets spell tokens if these come
first wherever the octets stand (`SpellsTokens`); strings, numerals of 64 bits and
objects do so if they have been written (`spellsTokens_object`).

The members of an object are then read one after another, each from its own tokens
(`readMembers_written`), and a document is a record and nothing more
(`RecordReader.readDocument_written`).
-/

namespace RemoteTail.Json

/-! ## Tokens that have been written -/

section

variable {octet : UInt8} {space rest after : Bytes} {token : Token}

/-- The tokens of a text are those of its first octet that is no space. -/
theorem tokens_eq (source : Bytes) :
    tokens source = match source.dropWhile isSpace with
      | [] => []
      | octet :: rest =>
        (lexeme octet rest).1 :: (lexeme octet rest).2.elim [] tokens := by
  rw [tokens.eq_def]
  split
  · next spaced => rw [spaced]
  · next octet rest spaced =>
      rw [spaced]
      split
      · next taken => simp only [taken, Option.elim_none]
      · next taken => simp only [taken, Option.elim_some]

theorem tokens_of_lexeme (no_space : isSpace octet = false)
    (taken : lexeme octet rest = (token, some after)) :
    tokens (octet :: rest) = token :: tokens after := by
  rw [tokens_eq, List.dropWhile_cons_of_neg (ne_true_of_eq_false no_space)]
  simp only [taken, Option.elim_some]

theorem tokens_spaces (spaces : ∀ octet ∈ space, isSpace octet = true) (rest : Bytes) :
    tokens (space ++ rest) = tokens rest := by
  rw [tokens_eq, tokens_eq rest, List.dropWhile_append_of_pos spaces]

theorem tokens_of_spaces (spaces : ∀ octet ∈ space, isSpace octet = true) : tokens space = [] := by
  rw [tokens_eq, List.dropWhile_eq_nil_iff.mpr spaces]

theorem tokens_mark (token : Token) (no_space : isSpace octet = false) (mark : mark? octet = some token)
    (rest : Bytes) : tokens (octet :: rest) = token :: tokens rest := by
  apply tokens_of_lexeme no_space
  simp only [lexeme, mark]

theorem endsNumber_of_isSpace (spaced : isSpace octet = true) (rest : Bytes) :
    EndsNumber (octet :: rest) := by
  rintro _ ⟨⟩
  exact Value.endsNumber_of_spaces (List.forall_mem_singleton.mpr spaced) octet rfl

theorem endsNumber_spaces (spaces : ∀ octet ∈ space, isSpace octet = true)
    (ends : EndsNumber rest) : EndsNumber (space ++ rest) := by
  rcases space with _ | ⟨octet, space⟩
  · exact ends
  · exact endsNumber_of_isSpace (spaces octet List.mem_cons_self) _

end

/-- Octets spell tokens if these come first in every text that the octets begin. -/
def SpellsTokens (spelt : Bytes) (parts : List Token) : Prop :=
  ∀ rest, EndsNumber rest → tokens (spelt ++ rest) = parts ++ tokens rest

/-- The token of a string. -/
def textToken (chars : List Char) : Token :=
  .text (.ok chars) (.ok ())

theorem tokens_quoted (chars : List Char) (rest : Bytes) :
    tokens (Quoted.quote :: (Bytes.ofChars (chars.flatMap escape) ++ Quoted.quote :: rest)) =
      textToken chars :: tokens rest := by
  apply tokens_of_lexeme rfl
  have no_mark : mark? Quoted.quote = none := rfl
  have no_word : wordTail? Quoted.quote = none := rfl
  rw [lexeme, no_mark, no_word, Quoted.read_written, Quoted.skip_written]
  rfl

theorem spellsTokens_text (chars : List Char) :
    SpellsTokens (Bytes.ofChars (stringText chars)) [textToken chars] := by
  intro rest _
  rw [Quoted.ofChars_stringText, List.cons_append, List.append_assoc, List.singleton_append]
  exact tokens_quoted chars rest

theorem spellsTokens_digits {value : Nat} (fits : value < 2 ^ 64) :
    SpellsTokens (Bytes.ofChars (Decimal.digits value)) [.number (.ok (.int value)) (.ok ())] := by
  intro rest ends
  have skipped := Number.skip_digits value ends
  have read_eq := Number.read_digits fits ends
  obtain ⟨first, more, digits_eq, digit, _⟩ := ofChars_digits value
  obtain ⟨no_space, no_mark, no_word, no_quote⟩ := Value.lexical_of_isDigit digit
  rw [digits_eq, List.cons_append] at skipped read_eq ⊢
  apply tokens_of_lexeme no_space
  simp only [lexeme, no_mark, no_word, if_neg no_quote, digit, Bool.or_true, if_true, skipped,
    read_eq]
  rfl

/-! ## Objects -/

/-- A member of an object: its key, the text of its value, and the tokens that this text spells. -/
structure Member where
  /-- The key. -/
  key : String
  /-- The text of the value. -/
  text : List Char
  /-- The tokens of the value. -/
  parts : List Token
  /-- The text spells the tokens. -/
  spells : SpellsTokens (Bytes.ofChars text) parts

namespace Member

/-- The member as it is written. -/
def entry (member : Member) : String × List Char :=
  (member.key, member.text)

/-- The tokens of members, with a comma before each but the first. -/
def tokens : (first : Bool) → List Member → List Token
  | _, [] => []
  | first, member :: members =>
    (if first then [] else [.comma]) ++
      textToken member.key.toList :: .colon :: (member.parts ++ tokens false members)

theorem length_le (first : Bool) (members : List Member) :
    members.length ≤ (tokens first members).length := by
  induction members generalizing first with
  | nil => exact Nat.zero_le _
  | cons member members ih =>
      have others := ih false
      rw [tokens, List.length_cons, List.length_append, List.length_cons, List.length_cons,
        List.length_append]
      omega

end Member

/-- Members are written so that each spells its key, a colon and the tokens of its value. -/
def WritesMembers (write : Member → List Char) : Prop :=
  ∀ member, SpellsTokens (Bytes.ofChars (write member))
    (textToken member.key.toList :: .colon :: member.parts)

theorem writesMembers_memberText : WritesMembers fun member => Value.memberText member.entry := by
  intro member rest ends
  rw [Value.ofChars_memberText, List.cons_append, List.append_assoc, List.cons_append,
    List.cons_append, tokens_quoted, tokens_mark .colon rfl rfl]
  exact congrArg _ (congrArg _ (member.spells rest ends))

/-- Members that are written with commas between them spell their tokens. -/
theorem spellsTokens_commaSeparated {write : Member → List Char} (writes : WritesMembers write)
    (members : List Member) :
    SpellsTokens (Bytes.ofChars (commaSeparated (members.map write)))
      (Member.tokens true members) := by
  intro rest ends
  induction members with
  | nil => rfl
  | cons member members ih =>
      cases members with
      | nil =>
          rw [List.map_singleton, commaSeparated, writes member rest ends]
          simp [Member.tokens]
      | cons next members =>
          have comma (after : Bytes) : tokens (0x2C :: after) = .comma :: tokens after :=
            tokens_mark .comma rfl rfl after
          rw [List.map_cons, List.map_cons, Value.ofChars_commaSeparated, List.append_assoc,
            List.cons_append, writes member _ (Value.endsNumber_comma _), comma,
            ← List.map_cons (f := write), ih]
          simp [Member.tokens]

/-- The tokens of an object. -/
def objectTokens (members : List Member) : List Token :=
  .opening .object :: (Member.tokens true members ++ [.closing .object])

/-- Members between brackets spell an object, whatever white space stands before the closing
bracket. -/
theorem spellsTokens_bracketed {write : Member → List Char} (writes : WritesMembers write)
    (members : List Member) {space : Bytes} (spaces : ∀ octet ∈ space, isSpace octet = true) :
    SpellsTokens
      (0x7B :: (Bytes.ofChars (commaSeparated (members.map write)) ++ (space ++ [0x7D])))
      (objectTokens members) := by
  intro rest _
  have ends := endsNumber_spaces spaces (Value.endsNumber_closing rest)
  rw [List.cons_append, List.append_assoc, List.append_assoc, List.singleton_append,
    tokens_mark (.opening .object) rfl rfl, spellsTokens_commaSeparated writes members _ ends,
    tokens_spaces spaces, tokens_mark (.closing .object) rfl rfl, objectTokens, List.cons_append,
    List.append_assoc, List.singleton_append]

theorem spellsTokens_object (members : List Member) :
    SpellsTokens (Bytes.ofChars (objectText (members.map Member.entry))) (objectTokens members) := by
  have written : Bytes.ofChars (objectText (members.map Member.entry)) =
      0x7B :: (Bytes.ofChars (commaSeparated (members.map fun member =>
        Value.memberText member.entry)) ++ ([] ++ [0x7D])) := by
    rw [Value.objectText_eq, List.map_map, Bytes.ofChars_cons, Bytes.ofChars_append]
    rfl
  rw [written]
  exact spellsTokens_bracketed writesMembers_memberText members (List.forall_mem_nil _)

/-! ## Members that are read -/

section

variable {σ : Type} {read : σ → String → Reader σ} {state next last : σ} {member : Member}
  {members : List Member} {limit : Nat}

theorem nextKey_written (first : Bool) (member : Member) (members : List Member)
    (rest : List Token) :
    nextKey first (Member.tokens first (member :: members) ++ rest) =
      .ok (some member.key, .colon :: (member.parts ++ (Member.tokens false members ++ rest))) := by
  cases first <;> simp [nextKey, passComma, Member.tokens, textToken, Except.map]

/-- Members take a state to another if each of them, read from its tokens, takes it further. -/
inductive ReadsMembers (read : σ → String → Reader σ) : σ → List Member → σ → Prop where
  /-- No member. -/
  | nil {state : σ} : ReadsMembers read state [] state
  /-- A member, and those that follow it. -/
  | cons {state next last : σ} {member : Member} {members : List Member}
      (now : ∀ rest,
        read state member.key (.colon :: (member.parts ++ rest)) = .ok (next, rest))
      (others : ReadsMembers read next members last) :
      ReadsMembers read state (member :: members) last

/-- Members that have been written are read up to the bracket that closes them. -/
theorem readMembers_written (reads : ReadsMembers read state members last)
    (enough : members.length < limit) (first : Bool) (rest : List Token) :
    readMembers read limit first state
        (Member.tokens first members ++ .closing .object :: rest) =
      .ok (last, rest) := by
  induction reads generalizing limit first with
  | nil =>
      obtain ⟨limit, rfl⟩ := Nat.exists_eq_add_one_of_ne_zero (Nat.ne_zero_of_lt enough)
      rfl
  | cons now _ ih =>
      obtain ⟨limit, rfl⟩ := Nat.exists_eq_add_one_of_ne_zero (Nat.ne_zero_of_lt enough)
      rw [readMembers, nextKey_written]
      simp only [now]
      exact ih (Nat.lt_of_succ_lt_succ enough) false

end

namespace RecordReader

variable {σ α : Type} {record : RecordReader σ α} {state next : σ} {field : Field σ} {key : String}

/-- A field is read that has not come before. -/
theorem readMember_of_field (found : record.fields.find? (·.name = key) = some field)
    (unread : field.isRead state = false) {text rest : List Token}
    (read_eq : field.read state text = .ok (next, rest)) :
    record.readMember state key (.colon :: text) = .ok (next, rest) := by
  rw [readMember, found]
  simp only [unread, Bool.false_eq_true, if_false]
  exact read_eq

/-- A document of members that have been written is the record that they make, whatever white space
comes after it. -/
theorem readDocument_written {members : List Member} {value : α} {space : Bytes}
    (reads : ReadsMembers record.readMember record.start members state)
    (finished : record.finish state = some value)
    (spaces : ∀ octet ∈ space, isSpace octet = true) :
    record.readDocument (Bytes.ofChars (objectText (members.map Member.entry)) ++ space) =
      .ok value := by
  have enough : members.length <
      (Member.tokens true members ++ [Token.closing .object]).length + 1 := by
    have few := Member.length_le true members
    rw [List.length_append]
    omega
  have members_eq := readMembers_written reads enough true []
  have complete_eq : record.complete state = .ok value := by
    rw [complete, finished]
  rw [readDocument, spellsTokens_object members space (Value.endsNumber_of_spaces spaces),
    tokens_of_spaces spaces, List.append_nil, objectTokens, read, members_eq]
  simp only [bind, Except.bind, complete_eq]
  rfl

end RecordReader

end RemoteTail.Json

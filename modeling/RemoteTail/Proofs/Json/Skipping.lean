import RemoteTail.Json.Skip
import RemoteTail.Proofs.Json.Lexing

/-!
# Values that are skipped

A value of any depth is skipped up to its end (`skipValue_of_isValue`), and what
is skipped is a value (`exists_of_skipValue`).  Inside a value the walk goes on as
it would if the value inside had not been there (`Place.resume`).
-/

namespace RemoteTail.Json

namespace Place

variable {opened : List Shape} {shape : Shape} {token : Token} {after left : List Token}

/-! ## One token -/

/-- The walk after a complete value, inside the given brackets. -/
def resume (opened : List Shape) (after : List Token) : Except Fault (List Token) :=
  match afterValue opened with
  | none => .ok after
  | some place => leave place after

/-- What is awaited where an item of brackets is. -/
def item : Shape → Awaited
  | .list => .value
  | .object => .key

/-- A value that is one token which can be skipped. -/
inductive IsScalar : Token → Prop where
  /-- A word. -/
  | word : IsScalar (.word (.ok ()))
  /-- A number. -/
  | number (value : Except Fault Number) : IsScalar (.number value (.ok ()))
  /-- A string. -/
  | text (value : Except Fault (List Char)) : IsScalar (.text value (.ok ()))

theorem resume_cons (shape : Shape) (opened : List Shape) (after : List Token) :
    resume (shape :: opened) after = leave ⟨shape :: opened, .next⟩ after :=
  rfl

theorem leave_scalar (scalar : IsScalar token) (opened : List Shape) (after : List Token) :
    leave ⟨opened, .value⟩ (token :: after) = resume opened after := by
  cases scalar <;> cases opened <;> rfl

theorem leave_closing {expected : Awaited} (closable : expected = .first ∨ expected = .next)
    (opened : List Shape) (after : List Token) :
    leave ⟨shape :: opened, expected⟩ (.closing shape :: after) = resume opened after := by
  rcases closable with rfl | rfl
  all_goals
    rw [leave, step, if_pos rfl]
    cases opened <;> rfl

theorem leave_comma (shape : Shape) (opened : List Shape) (after : List Token) :
    leave ⟨shape :: opened, .next⟩ (.comma :: after) =
      leave ⟨shape :: opened, item shape⟩ after := by
  cases shape <;> rfl

/-- Where no bracket closes, the first item is awaited as any other. -/
theorem leave_first (open_still : ∀ closed, token ≠ .closing closed) :
    leave ⟨shape :: opened, .first⟩ (token :: after) =
      leave ⟨shape :: opened, item shape⟩ (token :: after) := by
  cases token with
  | closing closed => exact absurd rfl (open_still closed)
  | opening | colon | comma | word | number | text | junk => cases shape <;> rfl

theorem value_cases {source : List Token} (passed : leave ⟨opened, .value⟩ source = .ok left) :
    (∃ shape after, source = .opening shape :: after ∧
      leave ⟨shape :: opened, .first⟩ after = .ok left) ∨
    ∃ token after, source = token :: after ∧ IsScalar token ∧ resume opened after = .ok left := by
  rcases source with _ | ⟨token, after⟩
  · cases passed
  cases token with
  | opening shape => exact .inl ⟨shape, after, rfl, passed⟩
  | closing | colon | comma | junk => cases passed
  | word verdict =>
      cases verdict with
      | error => cases passed
      | ok =>
          refine .inr ⟨_, after, rfl, .word, ?_⟩
          rw [leave_scalar .word] at passed
          exact passed
  | number value verdict =>
      cases verdict with
      | error => cases passed
      | ok =>
          refine .inr ⟨_, after, rfl, .number value, ?_⟩
          rw [leave_scalar (.number value)] at passed
          exact passed
  | text value verdict =>
      cases verdict with
      | error => cases passed
      | ok =>
          refine .inr ⟨_, after, rfl, .text value, ?_⟩
          rw [leave_scalar (.text value)] at passed
          exact passed

theorem next_cases {source : List Token}
    (passed : leave ⟨shape :: opened, .next⟩ source = .ok left) :
    (∃ after, source = .closing shape :: after ∧ resume opened after = .ok left) ∨
    ∃ after, source = .comma :: after ∧ leave ⟨shape :: opened, item shape⟩ after = .ok left := by
  rcases source with _ | ⟨token, after⟩
  · cases passed
  cases token with
  | closing closed =>
      by_cases same : closed = shape
      · subst same
        rw [leave_closing (.inr rfl)] at passed
        exact .inl ⟨after, rfl, passed⟩
      · rw [leave, step, if_neg same] at passed
        cases passed
  | comma =>
      rw [leave_comma] at passed
      exact .inr ⟨after, rfl, passed⟩
  | opening | colon | word | number | text | junk => cases passed

theorem first_cases {source : List Token}
    (passed : leave ⟨shape :: opened, .first⟩ source = .ok left) :
    (∃ after, source = .closing shape :: after ∧ resume opened after = .ok left) ∨
      leave ⟨shape :: opened, item shape⟩ source = .ok left := by
  rcases source with _ | ⟨token, after⟩
  · cases passed
  by_cases closes : ∃ closed, token = .closing closed
  · obtain ⟨closed, rfl⟩ := closes
    by_cases same : closed = shape
    · subst same
      rw [leave_closing (.inl rfl)] at passed
      exact .inl ⟨after, rfl, passed⟩
    · rw [leave, step, if_neg same] at passed
      cases passed
  · rw [leave_first fun closed same => closes ⟨closed, same⟩] at passed
    exact .inr passed

theorem key_cases {source : List Token} (passed : leave ⟨opened, .key⟩ source = .ok left) :
    ∃ value after, source = .text value (.ok ()) :: after ∧
      leave ⟨opened, .colon⟩ after = .ok left := by
  rcases source with _ | ⟨token, after⟩
  · cases passed
  cases token with
  | text value verdict =>
      cases verdict with
      | error => cases passed
      | ok => exact ⟨value, after, rfl, passed⟩
  | opening | closing | colon | comma | word | number | junk => cases passed

theorem colon_cases {source : List Token} (passed : leave ⟨opened, .colon⟩ source = .ok left) :
    ∃ after, source = .colon :: after ∧ leave ⟨opened, .value⟩ after = .ok left := by
  rcases source with _ | ⟨token, after⟩
  · cases passed
  cases token with
  | colon => exact ⟨after, rfl, passed⟩
  | opening | closing | comma | word | number | text | junk =>
      cases opened <;> cases passed

/-! ## Values are skipped -/

theorem tokens_bracket {bracket : Token} {octet : UInt8} (isMark : mark? octet = some bracket)
    (rest : Bytes) : tokens (octet :: rest) = bracket :: tokens rest :=
  tokens_mark bracket (isSpace_of_mark? isMark) isMark rest

/-- A value begins with no closing bracket. -/
theorem exists_token_of_isValue {text rest : Bytes} (isValue : IsValue text)
    (ends : EndsNumber rest) :
    ∃ token after, tokens (text ++ rest) = token :: after ∧ ∀ closed, token ≠ .closing closed := by
  cases isValue with
  | word isWord => exact ⟨_, _, tokens_of_lexed (.word isWord), nofun⟩
  | number isNumber =>
      have skipped := Number.skip_of_isNumber isNumber ends
      exact ⟨_, _, tokens_of_lexed (.number isNumber skipped), nofun⟩
  | text isLiteral => exact ⟨_, _, tokens_of_lexed (.text isLiteral), nofun⟩
  | list => exact ⟨.opening .list, _, tokens_bracket rfl _, nofun⟩
  | object => exact ⟨.opening .object, _, tokens_bracket rfl _, nofun⟩

/-- Octets are skipped as a value, whatever brackets are open and whatever follows. -/
def Skips (text : Bytes) : Prop :=
  ∀ opened rest, EndsNumber rest →
    leave ⟨opened, .value⟩ (tokens (text ++ rest)) = resume opened (tokens rest)

theorem skips_scalar {text : Bytes}
    (lexed : ∀ rest, EndsNumber rest → ∃ token, IsScalar token ∧ Lexed token text rest) :
    Skips text := by
  intro opened rest ends
  obtain ⟨token, scalar, lexed⟩ := lexed rest ends
  rw [tokens_of_lexed lexed, leave_scalar scalar]

/-- Octets are passed as an item of brackets, whatever brackets are open and whatever follows.  They
begin with no closing bracket. -/
structure SkipsItem (shape : Shape) (octets : Bytes) : Prop where
  opens : ∀ rest, EndsNumber rest →
    ∃ token after, tokens (octets ++ rest) = token :: after ∧ ∀ closed, token ≠ .closing closed
  passes : ∀ opened rest, EndsNumber rest →
    leave ⟨opened, item shape⟩ (tokens (octets ++ rest)) = resume opened (tokens rest)

/-- The tokens of an element are those of its value and those that follow it. -/
theorem tokens_element (element : Element) (rest : Bytes) :
    tokens (element.octets ++ rest) = tokens (element.text ++ (element.after ++ rest)) := by
  rw [Element.octets, List.append_assoc, List.append_assoc, tokens_spaces element.before_spaces]

theorem leave_element {element : Element} (skips : Skips element.text) (opened : List Shape)
    {rest : Bytes} (ends : EndsNumber rest) :
    leave ⟨opened, .value⟩ (tokens (element.octets ++ rest)) = resume opened (tokens rest) := by
  rw [tokens_element, skips _ _ (endsNumber_spaces element.after_spaces ends),
    tokens_spaces element.after_spaces]

theorem skipsItem_element {element : Element} (isValue : IsValue element.text)
    (skips : Skips element.text) : SkipsItem .list element.octets where
  opens := by
    intro rest ends
    rw [tokens_element]
    exact exists_token_of_isValue isValue (endsNumber_spaces element.after_spaces ends)
  passes := fun opened _ ends => leave_element skips opened ends

/-- The tokens of a property are a string, a colon, and those of its value. -/
theorem tokens_property {property : Property} (isLiteral : IsLiteral property.key) (rest : Bytes) :
    ∃ value, tokens (property.octets ++ rest) =
      .text value (.ok ()) :: .colon :: tokens (property.value.octets ++ rest) ∧
      ∀ chars, value = .ok chars ↔ Literal property.key chars := by
  refine ⟨_, ?_, fun chars => isLiteral.read_eq_ok_iff (property.after ++ 0x3A ::
    (property.value.octets ++ rest))⟩
  rw [Property.octets, List.append_assoc, List.append_assoc, List.append_assoc, List.cons_append,
    tokens_spaces property.before_spaces, tokens_of_lexed (.text isLiteral),
    tokens_spaces property.after_spaces, tokens_bracket rfl]

theorem skipsItem_property {property : Property} (isLiteral : IsLiteral property.key)
    (skips : Skips property.value.text) : SkipsItem .object property.octets where
  opens := by
    intro rest _
    obtain ⟨value, shown, _⟩ := tokens_property isLiteral rest
    exact ⟨_, _, shown, nofun⟩
  passes := by
    intro opened rest ends
    obtain ⟨value, shown, _⟩ := tokens_property isLiteral rest
    rw [shown]
    exact leave_element skips opened ends

/-- What may follow an item inside brackets. -/
theorem endsNumber_continued (items : List Bytes) {rest : Bytes} (ends : EndsNumber rest) :
    EndsNumber (continued items ++ rest) := by
  cases items with
  | nil => exact ends
  | cons item items => exact Value.endsNumber_comma _

section

variable {items : List Bytes} {octet : UInt8} {rest : Bytes}

/-- The items after the first are passed up to the bracket that closes them. -/
theorem leave_continued (isMark : mark? octet = some (.closing shape))
    (skips : ∀ item ∈ items, SkipsItem shape item) (ends : EndsNumber (octet :: rest)) :
    leave ⟨shape :: opened, .next⟩ (tokens (continued items ++ octet :: rest)) =
      resume opened (tokens rest) := by
  induction items with
  | nil => rw [continued, List.flatMap_nil, List.nil_append, tokens_bracket isMark,
      leave_closing (.inr rfl)]
  | cons item items ih =>
      obtain ⟨first, others⟩ := List.forall_mem_cons.mp skips
      have comma (after : Bytes) : tokens (0x2C :: after) = .comma :: tokens after :=
        tokens_bracket rfl after
      rw [continued, List.flatMap_cons, ← continued, List.append_assoc, List.cons_append, comma,
        leave_comma, first.passes _ _ (endsNumber_continued items ends), resume_cons, ih others]

/-- What stands between brackets is passed together with the bracket that closes them. -/
theorem leave_separated {space : Bytes} (spaces : IsSpaces space)
    (isMark : mark? octet = some (.closing shape)) (skips : ∀ item ∈ items, SkipsItem shape item)
    (ends : EndsNumber (octet :: rest)) :
    leave ⟨shape :: opened, .first⟩ (tokens (separated space items ++ octet :: rest)) =
      resume opened (tokens rest) := by
  cases items with
  | nil => rw [separated, tokens_spaces spaces, tokens_bracket isMark, leave_closing (.inl rfl)]
  | cons item items =>
      obtain ⟨first, others⟩ := List.forall_mem_cons.mp skips
      have rest_ends := endsNumber_continued items ends
      have passed := first.passes (shape :: opened) _ rest_ends
      obtain ⟨token, after, shown, no_closing⟩ := first.opens _ rest_ends
      rw [separated, List.append_assoc]
      rw [shown] at passed ⊢
      rw [leave_first no_closing, passed, resume_cons]
      exact leave_continued isMark others ends

end

theorem bracketed_append (shape : Shape) (space : Bytes) (items : List Bytes) (rest : Bytes) :
    bracketed shape space items ++ rest =
      openingOctet shape :: (separated space items ++ closingOctet shape :: rest) := by
  rw [bracketed, List.cons_append, List.append_assoc, List.singleton_append]

theorem skips_of_isValue {text : Bytes} (isValue : IsValue text) : Skips text := by
  induction isValue with
  | word isWord => exact skips_scalar fun rest _ => ⟨_, .word, .word isWord⟩
  | number isNumber =>
      exact skips_scalar fun rest ends =>
        ⟨_, .number _, .number isNumber (Number.skip_of_isNumber isNumber ends)⟩
  | text isLiteral => exact skips_scalar fun rest _ => ⟨_, .text _, .text isLiteral⟩
  | list spaces values ih =>
      intro opened rest _
      rw [listOctets, bracketed_append, tokens_bracket rfl]
      refine leave_separated spaces rfl ?_ (endsNumber_bracket rest)
      intro item among
      obtain ⟨element, member, rfl⟩ := List.mem_map.mp among
      exact skipsItem_element (values element member) (ih element member)
  | object spaces keys values ih =>
      intro opened rest _
      rw [objectOctets, bracketed_append, tokens_bracket rfl]
      refine leave_separated spaces rfl ?_ (Value.endsNumber_closing rest)
      intro item among
      obtain ⟨property, member, rfl⟩ := List.mem_map.mp among
      exact skipsItem_property (keys property member) (ih property member)

/-! ## What is skipped is a value -/

theorem isValue_of_lexed {text rest : Bytes} (lexed : Lexed token text rest)
    (scalar : IsScalar token) : IsValue text := by
  cases lexed with
  | mark isMark =>
      have found := markOctet?_of_mark? isMark
      cases scalar <;> cases found
  | word isWord => exact .word isWord
  | number isNumber _ => exact .number isNumber
  | text isLiteral => exact .text isLiteral

theorem exists_key {source : Bytes} (passed : leave ⟨opened, .key⟩ (tokens source) = .ok left) :
    ∃ before key after rest, IsSpaces before ∧ IsLiteral key ∧ IsSpaces after ∧
      source = before ++ (quoted key ++ (after ++ 0x3A :: rest)) ∧
      leave ⟨opened, .value⟩ (tokens rest) = .ok left := by
  obtain ⟨value, key_after, key_shown, colon_passed⟩ := key_cases passed
  obtain ⟨before, text, key_rest, before_spaces, source_eq, lexed, key_after_eq⟩ :=
    exists_lexed key_shown rfl
  obtain ⟨key, isLiteral, rfl, _⟩ := exists_literal_of_lexed lexed
  obtain ⟨colon_after, colon_shown, value_passed⟩ := colon_cases colon_passed
  obtain ⟨after, rest, after_spaces, rfl, rfl⟩ := exists_mark (key_after_eq ▸ colon_shown) rfl
  exact ⟨before, key, after, rest, before_spaces, isLiteral, after_spaces, source_eq, value_passed⟩

/-- Octets are an item of brackets, with white space around it. -/
def IsItem : Shape → Bytes → Prop
  | .list, octets => ∃ element : Element, IsValue element.text ∧ octets = element.octets
  | .object, octets => ∃ property : Property,
      IsLiteral property.key ∧ IsValue property.value.text ∧ octets = property.octets

theorem exists_map_eq {α : Type} {write : α → Bytes} {IsWritten : α → Prop} {items : List Bytes}
    (written : ∀ item ∈ items, ∃ source, IsWritten source ∧ item = write source) :
    ∃ sources : List α, (∀ source ∈ sources, IsWritten source) ∧ items = sources.map write := by
  induction items with
  | nil => exact ⟨[], List.forall_mem_nil _, rfl⟩
  | cons item items ih =>
      obtain ⟨⟨source, isWritten, rfl⟩, others⟩ := List.forall_mem_cons.mp written
      obtain ⟨sources, all_written, rfl⟩ := ih others
      exact ⟨source :: sources, List.forall_mem_cons.mpr ⟨isWritten, all_written⟩, rfl⟩

/-- Items between brackets are a list or an object. -/
theorem isValue_of_items {items : List Bytes} {space : Bytes} (spaces : IsSpaces space)
    (isItems : ∀ item ∈ items, IsItem shape item) :
    IsValue (bracketed shape space items) := by
  cases shape with
  | list =>
      obtain ⟨elements, values, rfl⟩ := exists_map_eq isItems
      exact .list spaces values
  | object =>
      have written : ∀ item ∈ items, ∃ property : Property,
          (IsLiteral property.key ∧ IsValue property.value.text) ∧ item = property.octets := by
        intro item among
        obtain ⟨property, isLiteral, isValue, item_eq⟩ := isItems item among
        exact ⟨property, ⟨isLiteral, isValue⟩, item_eq⟩
      obtain ⟨properties, parts, rfl⟩ := exists_map_eq written
      exact .object spaces (fun property among => (parts property among).1)
        (fun property among => (parts property among).2)

theorem isValue_ne_nil {text : Bytes} (isValue : IsValue text) : 0 < text.length := by
  obtain ⟨token, after, shown, _⟩ :=
    exists_token_of_isValue isValue (Value.endsNumber_of_spaces (List.forall_mem_nil _))
  rcases text with _ | ⟨octet, text⟩
  · rw [List.append_nil, tokens_of_spaces (List.forall_mem_nil _)] at shown
    cases shown
  · exact Nat.succ_pos _

/-- What the walk makes of octets, where it passes a value or the items that are left between
brackets. -/
structure Understands (source : Bytes) : Prop where
  value : ∀ {opened left}, leave ⟨opened, .value⟩ (tokens source) = .ok left →
    ∃ space text rest, IsSpaces space ∧ source = space ++ (text ++ rest) ∧ IsValue text ∧
      resume opened (tokens rest) = .ok left
  items : ∀ {shape opened left}, leave ⟨shape :: opened, .next⟩ (tokens source) = .ok left →
    ∃ space items rest, IsSpaces space ∧ (∀ item ∈ items, IsItem shape item) ∧
      source = space ++ (continued items ++ closingOctet shape :: rest) ∧
      resume opened (tokens rest) = .ok left

/-- An item that is passed, without the white space after it. -/
theorem exists_item {source : Bytes} (shape : Shape)
    (understands : ∀ part : Bytes, part.length ≤ source.length → Understands part)
    (passed : leave ⟨shape :: opened, item shape⟩ (tokens source) = .ok left) :
    ∃ front rest, source = front ++ rest ∧ 0 < front.length ∧
      (∀ space, IsSpaces space → IsItem shape (front ++ space)) ∧
      leave ⟨shape :: opened, .next⟩ (tokens rest) = .ok left := by
  cases shape with
  | list =>
      obtain ⟨before, text, rest, before_spaces, source_eq, isValue, passed⟩ :=
        (understands source (Nat.le_refl _)).value passed
      have positive := isValue_ne_nil isValue
      refine ⟨before ++ text, rest, by rw [source_eq, List.append_assoc], ?_, ?_, passed⟩
      · rw [List.length_append]
        omega
      · intro after after_spaces
        exact ⟨⟨before, text, after, before_spaces, after_spaces⟩, isValue, List.append_assoc ..⟩
  | object =>
      obtain ⟨before, key, between, behind, before_spaces, isLiteral, between_spaces, source_eq,
        value_passed⟩ := exists_key passed
      have shorter : behind.length ≤ source.length := by
        rw [source_eq]
        simp only [List.length_append, List.length_cons]
        omega
      obtain ⟨space, text, rest, spaces, rfl, isValue, next_passed⟩ :=
        (understands behind shorter).value value_passed
      refine ⟨before ++ (quoted key ++ (between ++ 0x3A :: (space ++ text))), rest, ?_, ?_, ?_,
        next_passed⟩
      · simp only [source_eq, List.append_assoc, List.cons_append]
      · simp only [List.length_append, List.length_cons]
        omega
      · intro after after_spaces
        refine ⟨⟨before, key, between, ⟨space, text, after, spaces, after_spaces⟩, before_spaces,
          between_spaces⟩, isLiteral, isValue, ?_⟩
        simp only [Property.octets, Element.octets, List.append_assoc, List.cons_append]

theorem markOctet?_opening (shape : Shape) :
    markOctet? (.opening shape) = some (openingOctet shape) := by
  cases shape <;> rfl

theorem markOctet?_closing (shape : Shape) :
    markOctet? (.closing shape) = some (closingOctet shape) := by
  cases shape <;> rfl

/-- The first item and those that follow it, up to the bracket that closes them. -/
theorem exists_items {source : Bytes} (shape : Shape)
    (understands : ∀ part : Bytes, part.length ≤ source.length → Understands part)
    (passed : leave ⟨shape :: opened, item shape⟩ (tokens source) = .ok left) :
    ∃ first others rest, (∀ item ∈ first :: others, IsItem shape item) ∧
      source = first ++ (continued others ++ closingOctet shape :: rest) ∧
      resume opened (tokens rest) = .ok left := by
  obtain ⟨front, behind, rfl, _, isItem, next_passed⟩ := exists_item shape understands passed
  have shorter : behind.length ≤ (front ++ behind).length := by
    rw [List.length_append]
    omega
  obtain ⟨space, others, rest, spaces, isItems, rfl, resumed⟩ :=
    (understands behind shorter).items next_passed
  refine ⟨front ++ space, others, rest, ?_, (List.append_assoc ..).symm, resumed⟩
  exact List.forall_mem_cons.mpr ⟨isItem space spaces, isItems⟩

/-- The walk passes values only, by induction on the length of the text. -/
theorem understands (source : Bytes) : Understands source := by
  induction length_eq : source.length using Nat.strongRecOn generalizing source with
  | ind length ih =>
  have shorter {space behind : Bytes} {octet : UInt8}
      (source_eq : source = space ++ octet :: behind) (part : Bytes)
      (inside : part.length ≤ behind.length) : Understands part := by
    refine ih part.length ?_ part rfl
    rw [← length_eq, source_eq, List.length_append, List.length_cons]
    omega
  constructor
  · intro opened left passed
    rcases value_cases passed with ⟨shape, after, shown, first_passed⟩ |
      ⟨token, after, shown, scalar, resumed⟩
    · obtain ⟨space, behind, spaces, source_eq, rfl⟩ :=
        exists_mark shown (markOctet?_opening shape)
      rcases first_cases first_passed with ⟨after, shown, resumed⟩ | item_passed
      · obtain ⟨inner, rest, inner_spaces, rfl, rfl⟩ :=
          exists_mark shown (markOctet?_closing shape)
        refine ⟨space, bracketed shape inner [], rest, spaces, ?_,
          isValue_of_items inner_spaces (List.forall_mem_nil _), resumed⟩
        rw [source_eq, bracketed_append, separated]
      · obtain ⟨first, others, rest, isItems, behind_eq, resumed⟩ :=
          exists_items shape (shorter source_eq) item_passed
        refine ⟨space, bracketed shape [] (first :: others), rest, spaces, ?_,
          isValue_of_items (List.forall_mem_nil _) isItems, resumed⟩
        rw [source_eq, behind_eq, bracketed_append, separated, List.append_assoc]
    · have skippable : token.IsSkippable := by
        cases scalar <;> rfl
      obtain ⟨space, text, rest, spaces, source_eq, lexed, rfl⟩ := exists_lexed shown skippable
      exact ⟨space, text, rest, spaces, source_eq, isValue_of_lexed lexed scalar, resumed⟩
  · intro shape opened left passed
    rcases next_cases passed with ⟨after, shown, resumed⟩ | ⟨after, shown, item_passed⟩
    · obtain ⟨space, rest, spaces, source_eq, rfl⟩ := exists_mark shown (markOctet?_closing shape)
      exact ⟨space, [], rest, spaces, List.forall_mem_nil _, source_eq, resumed⟩
    · obtain ⟨space, behind, spaces, source_eq, rfl⟩ := exists_mark shown rfl
      obtain ⟨first, others, rest, isItems, behind_eq, resumed⟩ :=
        exists_items shape (shorter source_eq) item_passed
      refine ⟨space, first :: others, rest, spaces, isItems, ?_, resumed⟩
      simp only [source_eq, behind_eq, continued, List.flatMap_cons, List.cons_append,
        List.append_assoc]

end Place

/-- A value is skipped up to its end. -/
theorem skipValue_of_isValue {text rest : Bytes} (isValue : IsValue text)
    (ends : EndsNumber rest) : skipValue (tokens (text ++ rest)) = .ok (tokens rest) :=
  Place.skips_of_isValue isValue [] rest ends

/-- What is skipped is a value. -/
theorem exists_of_skipValue {source : Bytes} {left : List Token}
    (skipped : skipValue (tokens source) = .ok left) :
    ∃ space text rest, IsSpaces space ∧ source = space ++ (text ++ rest) ∧ IsValue text ∧
      left = tokens rest := by
  obtain ⟨space, text, rest, spaces, source_eq, isValue, resumed⟩ :=
    (Place.understands source).value skipped
  exact ⟨space, text, rest, spaces, source_eq, isValue, (Except.ok.inj resumed).symm⟩

end RemoteTail.Json

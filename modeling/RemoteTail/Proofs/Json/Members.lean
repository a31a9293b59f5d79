import RemoteTail.Proofs.Json.Reading
import RemoteTail.Proofs.Text.Maps

/-!
# Members that are read

The members of an object are read one after another, each into the state that the
ones before it have left (`Collects`).  Where every member is read if it is spelt
in some way, so is an object of well-formed members (`readMembers_iff`), and what
is read as members is well-formed (`ReadsMember.exists_properties`).
-/

namespace RemoteTail.Json

variable {σ : Type} {member : σ → String → Reader σ} {Takes : σ → String → Bytes → σ → Prop}
  {state next last : σ} {left : List Token} {limit : Nat} {rest source : Bytes}

/-- Properties have the form of members: their keys that of strings, and their values that of
values. -/
structure AreMembers (properties : List Property) : Prop where
  keys : ∀ property ∈ properties, IsLiteral property.key
  values : ∀ property ∈ properties, IsValue property.value.text

theorem areMembers_cons {property : Property} {properties : List Property} :
    AreMembers (property :: properties) ↔
      IsLiteral property.key ∧ IsValue property.value.text ∧ AreMembers properties := by
  constructor
  · intro members
    obtain ⟨key, keys⟩ := List.forall_mem_cons.mp members.keys
    obtain ⟨value, values⟩ := List.forall_mem_cons.mp members.values
    exact ⟨key, value, keys, values⟩
  · rintro ⟨key, value, others⟩
    exact ⟨List.forall_mem_cons.mpr ⟨key, others.keys⟩,
      List.forall_mem_cons.mpr ⟨value, others.values⟩⟩

/-- Members take a state to another if the value of each of them takes it further by its key. -/
inductive Collects (Takes : σ → String → Bytes → σ → Prop) : σ → List Property → σ → Prop where
  /-- No member. -/
  | nil {state : σ} : Collects Takes state [] state
  /-- A member, and those that follow it. -/
  | cons {state next last : σ} {property : Property} {properties : List Property} {key : String}
      (named : Literal property.key key.toList) (takes : Takes state key property.value.text next)
      (others : Collects Takes next properties last) :
      Collects Takes state (property :: properties) last

theorem collects_nil_iff : Collects Takes state [] last ↔ last = state := by
  constructor
  · intro collects
    cases collects
    rfl
  · rintro rfl
    exact .nil

theorem collects_cons_iff {property : Property} {properties : List Property} :
    Collects Takes state (property :: properties) last ↔
      ∃ key next, Literal property.key key.toList ∧ Takes state key property.value.text next ∧
        Collects Takes next properties last := by
  constructor
  · intro collects
    cases collects with
    | cons named takes others => exact ⟨_, _, named, takes, others⟩
  · rintro ⟨key, next, named, takes, others⟩
    exact .cons named takes others

/-- Every member is read as by a reader of the values that take the state further by its key, once
the colon before the value has been passed. -/
def ReadsMember (member : σ → String → Reader σ) (Takes : σ → String → Bytes → σ → Prop) : Prop :=
  ∀ state key, ∃ read, Reads read (Takes state key) ∧
    ∀ source result, member state key source = .ok result ↔ afterColon read source = .ok result

theorem afterColon_eq_ok_iff {α : Type} {read : Reader α} {source : List Token}
    {result : α × List Token} :
    afterColon read source = .ok result ↔
      ∃ after, source = .colon :: after ∧ read after = .ok result := by
  rcases source with _ | ⟨token, after⟩
  · simp [afterColon]
  · cases token <;> simp [afterColon]

/-! ## Members that are well-formed -/

/-- The key of a member is read if it spells a text. -/
theorem exists_nextKey (first : Bool) {property : Property} (isLiteral : IsLiteral property.key)
    (rest : Bytes) :
    ∃ value : Except Fault (List Char), (∀ chars, value = .ok chars ↔ Literal property.key chars) ∧
      nextKey first (tokens ((if first then [] else [0x2C]) ++ (property.octets ++ rest))) =
        value.map fun chars =>
          (some (String.ofList chars), .colon :: tokens (property.value.octets ++ rest)) := by
  obtain ⟨value, shown, reads_key⟩ := Place.tokens_property isLiteral rest
  refine ⟨value, reads_key, ?_⟩
  cases first with
  | true =>
      rw [if_pos rfl, List.nil_append, shown]
      rfl
  | false =>
      have comma (after : Bytes) : tokens (0x2C :: after) = .comma :: tokens after :=
        Place.tokens_bracket rfl after
      rw [if_neg Bool.false_ne_true, List.singleton_append, comma, shown]
      rfl

/-- A member is read first, and then those that follow it. -/
theorem ReadsMember.readMembers_cons_iff (reads : ReadsMember member Takes) (first : Bool)
    {property : Property} (isLiteral : IsLiteral property.key)
    (isValue : IsValue property.value.text) (ends : EndsNumber rest) :
    readMembers member (limit + 1) first state
        (tokens ((if first then [] else [0x2C]) ++ (property.octets ++ rest))) = .ok (last, left) ↔
      ∃ key next, Literal property.key key.toList ∧ Takes state key property.value.text next ∧
        readMembers member limit false next (tokens rest) = .ok (last, left) := by
  obtain ⟨value, reads_key, nextKey_eq⟩ := exists_nextKey first isLiteral rest
  have value_ends := endsNumber_spaces property.value.after_spaces ends
  have taken (key : String) (next : σ) (after : List Token) :
      member state key (.colon :: tokens (property.value.octets ++ rest)) = .ok (next, after) ↔
        Takes state key property.value.text next ∧ after = tokens rest := by
    obtain ⟨read, reads_value, same⟩ := reads state key
    rw [same, afterColon, Place.tokens_element, reads_value.iff isValue value_ends,
      tokens_spaces property.value.after_spaces]
  rw [readMembers, nextKey_eq]
  cases value with
  | error fault =>
      simp only [Except.map, reduceCtorEq, false_iff]
      rintro ⟨key, next, named, _⟩
      cases (reads_key key.toList).mpr named
  | ok chars =>
      have named := (reads_key chars).mp rfl
      simp only [Except.map]
      constructor
      · intro read_eq
        rcases member_eq : member state (String.ofList chars)
            (.colon :: tokens (property.value.octets ++ rest)) with fault | ⟨next, after⟩
        · simp only [member_eq, reduceCtorEq] at read_eq
        · obtain ⟨takes, rfl⟩ := (taken _ _ _).mp member_eq
          simp only [member_eq] at read_eq
          exact ⟨String.ofList chars, next, by rwa [String.toList_ofList], takes, read_eq⟩
      · rintro ⟨key, next, key_named, takes, read_eq⟩
        obtain rfl := named.unique key_named
        simp only [String.ofList_toList, (taken key next _).mpr ⟨takes, rfl⟩, read_eq]

theorem readMembers_closing (first : Bool) (state : σ) (rest : Bytes) :
    readMembers member (limit + 1) first state (tokens (0x7D :: rest)) =
      .ok (state, tokens rest) := by
  have closing : tokens (0x7D :: rest) = .closing .object :: tokens rest :=
    Place.tokens_bracket rfl rest
  rw [closing]
  rfl

theorem continued_cons (item : Bytes) (items : List Bytes) :
    continued (item :: items) = [0x2C] ++ (item ++ continued items) := by
  rw [continued, List.flatMap_cons]
  rfl

theorem ReadsMember.readMembers_continued_iff (reads : ReadsMember member Takes)
    {properties : List Property} (members : AreMembers properties)
    (enough : properties.length < limit) :
    readMembers member limit false state
        (tokens (continued (properties.map Property.octets) ++ 0x7D :: rest)) = .ok (last, left) ↔
      Collects Takes state properties last ∧ left = tokens rest := by
  induction properties generalizing limit state with
  | nil =>
      obtain ⟨limit, rfl⟩ := Nat.exists_eq_add_one_of_ne_zero (Nat.ne_zero_of_lt enough)
      rw [List.map_nil, continued, List.flatMap_nil, List.nil_append, readMembers_closing,
        collects_nil_iff, Except.ok.injEq, Prod.mk.injEq]
      exact and_congr eq_comm eq_comm
  | cons property properties ih =>
      obtain ⟨limit, rfl⟩ := Nat.exists_eq_add_one_of_ne_zero (Nat.ne_zero_of_lt enough)
      obtain ⟨isLiteral, isValue, others⟩ := areMembers_cons.mp members
      have ends := Place.endsNumber_continued (properties.map Property.octets)
        (Value.endsNumber_closing rest)
      rw [List.map_cons, continued_cons, List.append_assoc, List.append_assoc]
      refine (reads.readMembers_cons_iff false isLiteral isValue ends).trans ?_
      simp only [ih others (Nat.lt_of_succ_lt_succ enough), collects_cons_iff, ← and_assoc,
        exists_and_right]

/-- The members of an object are read exactly if they take the state to the one that is read. -/
theorem ReadsMember.readMembers_iff (reads : ReadsMember member Takes) {space : Bytes}
    (spaces : IsSpaces space) {properties : List Property} (members : AreMembers properties)
    (enough : properties.length < limit) :
    readMembers member limit true state
        (tokens (separated space (properties.map Property.octets) ++ 0x7D :: rest)) =
        .ok (last, left) ↔
      Collects Takes state properties last ∧ left = tokens rest := by
  obtain ⟨limit, rfl⟩ := Nat.exists_eq_add_one_of_ne_zero (Nat.ne_zero_of_lt enough)
  cases properties with
  | nil =>
      rw [List.map_nil, separated, tokens_spaces spaces, readMembers_closing, collects_nil_iff,
        Except.ok.injEq, Prod.mk.injEq]
      exact and_congr eq_comm eq_comm
  | cons property properties =>
      obtain ⟨isLiteral, isValue, others⟩ := areMembers_cons.mp members
      have ends := Place.endsNumber_continued (properties.map Property.octets)
        (Value.endsNumber_closing rest)
      rw [List.map_cons, separated, List.append_assoc]
      refine (reads.readMembers_cons_iff true isLiteral isValue ends).trans ?_
      simp only [reads.readMembers_continued_iff others (Nat.lt_of_succ_lt_succ enough),
        collects_cons_iff, ← and_assoc, exists_and_right]

/-! ## What is read as members -/

theorem closes_of_readMembers {left : List Token} {result : σ × List Token}
    (read_eq : readMembers member limit false state left = .ok result) : Closes left := by
  rcases left with _ | ⟨token, left⟩
  · exact fun _ first => absurd first (Option.not_mem_none _)
  rintro _ ⟨⟩
  cases limit with
  | zero => cases read_eq
  | succ limit =>
      cases token with
      | comma => exact .inl rfl
      | closing shape => exact .inr ⟨shape, rfl⟩
      | opening | colon | word | number | text | junk =>
          simp only [readMembers, nextKey, passComma, Bool.false_eq_true, if_false,
            reduceCtorEq] at read_eq

theorem eq_of_passComma {first : Bool} {shown after : List Token}
    (passed : passComma first shown = .ok after) :
    shown = (if first then [] else [.comma]) ++ after := by
  cases first with
  | true => exact Except.ok.inj passed
  | false =>
      rcases shown with _ | ⟨token, shown⟩
      · cases passed
      · cases token with
        | comma =>
            by_cases nothing : shown.isEmpty = true
            · simp only [passComma, Bool.false_eq_true, if_false, nothing, if_true,
                reduceCtorEq] at passed
            · simp only [passComma, Bool.false_eq_true, if_false, nothing,
                Except.ok.injEq] at passed
              rw [passed]
              rfl
        | opening | closing | colon | word | number | text | junk => cases passed

/-- Before a key there is a comma, unless it is the first one. -/
theorem nextKey_cases {first : Bool} {shown after : List Token} {found : Option String}
    (nextKey_eq : nextKey first shown = .ok (found, after)) :
    (found = none ∧ shown = .closing .object :: after) ∨
      ∃ key verdict, found = some key ∧
        shown = (if first then [] else [.comma]) ++ .text (.ok key.toList) verdict :: after := by
  unfold nextKey at nextKey_eq
  split at nextKey_eq
  · cases nextKey_eq
  · cases nextKey_eq
    exact .inl ⟨rfl, rfl⟩
  · split at nextKey_eq
    · cases nextKey_eq
    · next _ value verdict rest passed =>
        obtain ⟨chars, rfl, key_eq⟩ := exists_of_map nextKey_eq
        obtain ⟨rfl, rfl⟩ := Prod.mk.inj key_eq
        refine .inr ⟨String.ofList chars, verdict, rfl, ?_⟩
        rw [String.toList_ofList]
        exact eq_of_passComma passed
    · cases nextKey_eq

/-- Octets are a property once white space has been put after them. -/
def IsPropertyFront (front : Bytes) : Prop :=
  ∀ space, IsSpaces space → ∃ property : Property,
    front ++ space = property.octets ∧ IsLiteral property.key ∧ IsValue property.value.text

/-- What is read as a member is a property. -/
theorem ReadsMember.exists_front (reads : ReadsMember member Takes) {key : String}
    {verdict : Except Fault Unit} {after : List Token}
    (shown : tokens source = .text (.ok key.toList) verdict :: after)
    (member_eq : member state key after = .ok (next, left)) (closes : Closes left) :
    ∃ front rest, source = front ++ rest ∧ left = tokens rest ∧ IsPropertyFront front := by
  obtain rfl := skippable_of_text shown
  obtain ⟨before, text, behind, before_spaces, source_eq, lexed, rfl⟩ := exists_lexed shown rfl
  obtain ⟨literal, isLiteral, rfl, _⟩ := exists_literal_of_lexed lexed
  obtain ⟨read, reads_value, same⟩ := reads state key
  obtain ⟨value_after, colon_shown, read_eq⟩ :=
    afterColon_eq_ok_iff.mp ((same _ _).mp member_eq)
  obtain ⟨between, value_source, between_spaces, rfl, rfl⟩ := exists_mark colon_shown rfl
  obtain ⟨space, text, rest, spaces, rfl, isValue, left_eq⟩ :=
    reads_value.exists_value read_eq closes
  refine ⟨before ++ (quoted literal ++ (between ++ 0x3A :: (space ++ text))), rest, ?_, left_eq, ?_⟩
  · simp only [source_eq, List.append_assoc, List.cons_append]
  · intro more more_spaces
    refine ⟨⟨before, literal, between, ⟨space, text, more, spaces, more_spaces⟩, before_spaces,
      between_spaces⟩, ?_, isLiteral, isValue⟩
    simp only [Property.octets, Element.octets, List.append_assoc, List.cons_append]

/-- The octets of members up to their closing bracket, from the first one on or after an earlier
one. -/
def membersFrom (first : Bool) (space : Bytes) (items : List Bytes) : Bytes :=
  if first then separated space items else space ++ continued items

/-- What is read as members is a sequence of properties and the bracket that closes them. -/
theorem ReadsMember.exists_properties (reads : ReadsMember member Takes) {first : Bool}
    (read_eq : readMembers member limit first state (tokens source) = .ok (last, left)) :
    ∃ space properties rest, IsSpaces space ∧ AreMembers properties ∧
      source = membersFrom first space (properties.map Property.octets) ++ 0x7D :: rest ∧
      left = tokens rest := by
  induction limit generalizing first state source with
  | zero => cases read_eq
  | succ limit ih =>
      rw [readMembers] at read_eq
      rcases nextKey_eq : nextKey first (tokens source) with fault | ⟨found, after⟩
      · simp only [nextKey_eq, reduceCtorEq] at read_eq
      rcases nextKey_cases nextKey_eq with ⟨rfl, shown⟩ | ⟨key, verdict, rfl, shown⟩
      · simp only [nextKey_eq, Except.ok.injEq, Prod.mk.injEq] at read_eq
        obtain ⟨space, rest, spaces, rfl, rfl⟩ := exists_mark shown rfl
        refine ⟨space, [], rest, spaces, ⟨List.forall_mem_nil _, List.forall_mem_nil _⟩, ?_,
          read_eq.2.symm⟩
        cases first with
        | true => rfl
        | false => rw [membersFrom, if_neg Bool.false_ne_true, List.map_nil, continued,
            List.flatMap_nil, List.append_nil]
      · rcases member_eq : member state key after with fault | ⟨next, between⟩
        · simp only [nextKey_eq, member_eq, reduceCtorEq] at read_eq
        simp only [nextKey_eq, member_eq] at read_eq
        have closes := closes_of_readMembers read_eq
        cases first with
        | true =>
            obtain ⟨front, behind, rfl, rfl, isFront⟩ := reads.exists_front shown member_eq closes
            obtain ⟨space, properties, rest, spaces, members, behind_eq, left_eq⟩ := ih read_eq
            obtain ⟨property, octets_eq, isLiteral, isValue⟩ := isFront space spaces
            refine ⟨[], property :: properties, rest, List.forall_mem_nil _,
              areMembers_cons.mpr ⟨isLiteral, isValue, members⟩, ?_, left_eq⟩
            simp only [behind_eq, membersFrom, Bool.false_eq_true, if_false, if_true, List.map_cons,
              separated, ← octets_eq, List.append_assoc]
        | false =>
            obtain ⟨space, comma_rest, spaces, rfl, text_shown⟩ := exists_mark shown rfl
            obtain ⟨front, behind, rfl, rfl, isFront⟩ :=
              reads.exists_front text_shown.symm member_eq closes
            obtain ⟨more, properties, rest, more_spaces, members, behind_eq, left_eq⟩ := ih read_eq
            obtain ⟨property, octets_eq, isLiteral, isValue⟩ := isFront more more_spaces
            refine ⟨space, property :: properties, rest, spaces,
              areMembers_cons.mpr ⟨isLiteral, isValue, members⟩, ?_, left_eq⟩
            simp only [behind_eq, membersFrom, Bool.false_eq_true, if_false, List.map_cons,
              continued_cons, ← octets_eq, List.append_assoc, List.nil_append, List.cons_append]

/-! ## Objects -/

theorem length_lt_of_leave {place : Place} {shown : List Token}
    (passed : place.leave shown = .ok left) : left.length < shown.length := by
  fun_induction Place.leave place shown with
  | case1 => cases passed
  | case2 => cases passed
  | case3 => cases passed; exact Nat.lt_succ_self _
  | case4 place token shown next _ ih => exact Nat.lt_succ_of_lt (ih passed)

/-- A property takes a token at least. -/
theorem length_tokens_property {property : Property} (isLiteral : IsLiteral property.key)
    (isValue : IsValue property.value.text) (ends : EndsNumber rest) :
    (tokens rest).length < (tokens (property.octets ++ rest)).length := by
  have skips := Place.skipsItem_property isLiteral (Place.skips_of_isValue isValue)
  exact length_lt_of_leave (skips.passes [] rest ends)

theorem length_le_continued {properties : List Property} (members : AreMembers properties)
    (rest : Bytes) :
    properties.length ≤
      (tokens (continued (properties.map Property.octets) ++ 0x7D :: rest)).length := by
  induction properties with
  | nil => exact Nat.zero_le _
  | cons property properties ih =>
      obtain ⟨isLiteral, isValue, others⟩ := areMembers_cons.mp members
      have ends := Place.endsNumber_continued (properties.map Property.octets)
        (Value.endsNumber_closing rest)
      have comma (after : Bytes) : tokens (0x2C :: after) = .comma :: tokens after :=
        Place.tokens_bracket rfl after
      have longer := length_tokens_property isLiteral isValue ends
      have others_le := ih others
      rw [List.map_cons, continued_cons, List.append_assoc, List.append_assoc,
        List.singleton_append, comma, List.length_cons, List.length_cons]
      omega

/-- There are at least as many tokens inside an object as it has members. -/
theorem length_le_separated {properties : List Property} (members : AreMembers properties)
    (space rest : Bytes) :
    properties.length ≤
      (tokens (separated space (properties.map Property.octets) ++ 0x7D :: rest)).length := by
  cases properties with
  | nil => exact Nat.zero_le _
  | cons property properties =>
      obtain ⟨isLiteral, isValue, others⟩ := areMembers_cons.mp members
      have ends := Place.endsNumber_continued (properties.map Property.octets)
        (Value.endsNumber_closing rest)
      have longer := length_tokens_property isLiteral isValue ends
      have others_le := length_le_continued others rest
      rw [List.map_cons, separated, List.append_assoc, List.length_cons]
      omega

theorem tokens_object (space : Bytes) (properties : List Property) (rest : Bytes) :
    tokens (objectOctets space properties ++ rest) =
      .opening .object ::
        tokens (separated space (properties.map Property.octets) ++ 0x7D :: rest) := by
  rw [objectOctets, Place.bracketed_append, Place.tokens_bracket rfl]
  rfl

/-- What is read of the members of an object, after its opening bracket, with a limit that is enough
for any number of them. -/
theorem ReadsMember.readObject_iff (reads : ReadsMember member Takes) {space : Bytes}
    (spaces : IsSpaces space) {properties : List Property} (members : AreMembers properties)
    {inner : List Token}
    (inner_eq : inner = tokens (separated space (properties.map Property.octets) ++ 0x7D :: rest)) :
    readMembers member (inner.length + 1) true state inner = .ok (last, left) ↔
      Collects Takes state properties last ∧ left = tokens rest := by
  have enough := length_le_separated members space rest
  subst inner_eq
  exact reads.readMembers_iff spaces members (Nat.lt_succ_of_le enough)

/-- What is read as an object is one. -/
theorem ReadsMember.exists_object (reads : ReadsMember member Takes) {inner : List Token}
    (shown : tokens source = .opening .object :: inner)
    (read_eq : readMembers member limit true state inner = .ok (last, left)) :
    ∃ before space properties rest, IsSpaces before ∧ IsSpaces space ∧ AreMembers properties ∧
      source = before ++ (objectOctets space properties ++ rest) ∧ left = tokens rest ∧
      inner = tokens (separated space (properties.map Property.octets) ++ 0x7D :: rest) := by
  obtain ⟨before, behind, before_spaces, rfl, rfl⟩ := exists_mark shown rfl
  obtain ⟨space, properties, rest, spaces, members, rfl, left_eq⟩ := reads.exists_properties read_eq
  refine ⟨before, space, properties, rest, before_spaces, spaces, members, ?_, left_eq, rfl⟩
  rw [objectOctets, Place.bracketed_append, membersFrom, if_pos rfl]
  rfl

/-- A value that begins as an object is one. -/
theorem exists_object_of_isValue {text : Bytes} {inner : List Token} (isValue : IsValue text)
    (ends : EndsNumber rest) (shown : tokens (text ++ rest) = .opening .object :: inner) :
    ∃ space properties, IsSpaces space ∧ AreMembers properties ∧
      text = objectOctets space properties := by
  cases isValue with
  | word isWord => cases (tokens_of_lexed (.word isWord)).symm.trans shown
  | number isNumber =>
      have lexed := Lexed.number isNumber (Number.skip_of_isNumber isNumber ends)
      cases (tokens_of_lexed lexed).symm.trans shown
  | text isLiteral => cases (tokens_of_lexed (.text isLiteral)).symm.trans shown
  | list => cases (Place.tokens_bracket rfl _).symm.trans shown
  | object spaces keys values => exact ⟨_, _, spaces, ⟨keys, values⟩, rfl⟩

/-! ## Maps from texts to texts -/

/-- A property is the entry of a map. -/
def SpellsEntry (property : Property) (entry : String × String) : Prop :=
  Literal property.key entry.1.toList ∧ SpellsText property.value.text entry.2

/-- Octets are an object of texts, and a map has its entries.  The last value of a key counts. -/
def SpellsTextMap (text : Bytes) (map : TextMap) : Prop :=
  ∃ space properties entries, IsSpaces space ∧ text = objectOctets space properties ∧
    List.Forall₂ SpellsEntry properties entries ∧
    map = (∅ : TextMap).insertAll entries

/-- The value of a member is set for its key. -/
def TakesEntry (map : TextMap) (key : String) (text : Bytes) (next : TextMap) : Prop :=
  ∃ value, SpellsText text value ∧ next = map.insert key value

theorem readsMember_insert :
    ReadsMember (fun (map : TextMap) key source =>
      (afterColon readText source).map fun (value, left) => (map.insert key value, left))
      TakesEntry := by
  intro map key
  refine ⟨_, reads_text.map fun value => map.insert key value, ?_⟩
  intro source result
  rcases source with _ | ⟨token, source⟩
  · rfl
  · cases token <;> rfl

theorem collects_takesEntry_iff {properties : List Property} {map last : TextMap} :
    Collects TakesEntry map properties last ↔
      ∃ entries, List.Forall₂ SpellsEntry properties entries ∧
        last = map.insertAll entries := by
  induction properties generalizing map with
  | nil =>
      rw [collects_nil_iff]
      constructor
      · rintro rfl
        exact ⟨[], .nil, rfl⟩
      · rintro ⟨entries, written, rfl⟩
        cases written
        rfl
  | cons property properties ih =>
      rw [collects_cons_iff]
      constructor
      · rintro ⟨key, next, named, ⟨value, spells, rfl⟩, collects⟩
        obtain ⟨entries, written, rfl⟩ := ih.mp collects
        exact ⟨(key, value) :: entries, .cons ⟨named, spells⟩ written, rfl⟩
      · rintro ⟨entries, written, rfl⟩
        cases written with
        | cons first others =>
            exact ⟨_, _, first.1, ⟨_, first.2, rfl⟩, ih.mpr ⟨_, others, rfl⟩⟩

theorem SpellsText.isValue {text : Bytes} {value : String} (spells : SpellsText text value) :
    IsValue text := by
  obtain ⟨literal, rfl, spelt⟩ := spells
  exact .text spelt.isLiteral

theorem areMembers_of_entries {properties : List Property} {entries : List (String × String)}
    (written : List.Forall₂ SpellsEntry properties entries) : AreMembers properties := by
  induction written with
  | nil => exact ⟨List.forall_mem_nil _, List.forall_mem_nil _⟩
  | cons first _ ih => exact areMembers_cons.mpr ⟨first.1.isLiteral, first.2.isValue, ih⟩

theorem exists_of_readTextMap {shown : List Token} {result : TextMap × List Token}
    (read_eq : readTextMap shown = .ok result) :
    ∃ inner, shown = .opening .object :: inner := by
  rcases shown with _ | ⟨token, shown⟩
  · cases read_eq
  · cases token with
    | opening shape =>
        cases shape with
        | list => cases read_eq
        | object => exact ⟨shown, rfl⟩
    | closing | colon | comma | word | number | text | junk => cases read_eq

theorem reads_textMap : Reads readTextMap SpellsTextMap where
  iff := by
    intro text rest map left isValue ends
    constructor
    · intro read_eq
      obtain ⟨inner, shown⟩ := exists_of_readTextMap read_eq
      obtain ⟨space, properties, spaces, members, rfl⟩ :=
        exists_object_of_isValue isValue ends shown
      rw [tokens_object] at read_eq
      obtain ⟨collects, left_eq⟩ :=
        (readsMember_insert.readObject_iff spaces members rfl).mp read_eq
      obtain ⟨entries, written, map_eq⟩ := collects_takesEntry_iff.mp collects
      exact ⟨⟨space, properties, entries, spaces, rfl, written, map_eq⟩, left_eq⟩
    · rintro ⟨⟨space, properties, entries, spaces, rfl, written, rfl⟩, rfl⟩
      rw [tokens_object]
      exact (readsMember_insert.readObject_iff spaces (areMembers_of_entries written) rfl).mpr
        ⟨collects_takesEntry_iff.mpr ⟨entries, written, rfl⟩, rfl⟩
  exists_value := by
    intro source map left read_eq _
    obtain ⟨inner, shown⟩ := exists_of_readTextMap read_eq
    rw [shown] at read_eq
    obtain ⟨before, space, properties, rest, before_spaces, spaces, members, source_eq, left_eq,
      _⟩ := readsMember_insert.exists_object shown read_eq
    exact ⟨before, _, rest, before_spaces, source_eq,
      .object spaces members.keys members.values, left_eq⟩

end RemoteTail.Json

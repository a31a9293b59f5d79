import RemoteTail.Proofs.Json.Slots

/-!
# Documents that are records

A list is read as a record if its elements fill the slots in their order
(`readsList_iff`), and what is read in this way is a list (`exists_elements`).

A document is a record and nothing more than white space.  So it is an object whose
members describe the state that the record is made from, or a list whose elements
fill that state (`Layout.readDocument_object_iff`, `Layout.readDocument_list_iff`,
`Layout.exists_of_readDocument`).
-/

namespace RemoteTail.Json

variable {σ α : Type}

/-! ## Lists -/

/-- Elements fill slots one after another.  There may be fewer elements than slots. -/
inductive FillsInOrder : σ → List (Slot σ) → List Element → σ → Prop where
  /-- No element is left. -/
  | done {state : σ} {slots : List (Slot σ)} : FillsInOrder state slots [] state
  /-- An element fills the first slot, and those that follow it the others. -/
  | cons {state last : σ} {slot : Slot σ} {slots : List (Slot σ)} {element : Element}
      {elements : List Element} {value : slot.Value} (spells : slot.Spells element.text value)
      (others : FillsInOrder (slot.set state value) slots elements last) :
      FillsInOrder state (slot :: slots) (element :: elements) last

section

variable {state last : σ} {slot : Slot σ} {slots : List (Slot σ)} {element : Element}
  {elements : List Element} {rest space : Bytes} {left : List Token}

theorem fillsInOrder_nil_iff : FillsInOrder state slots [] last ↔ last = state := by
  constructor
  · intro fills
    cases fills
    rfl
  · rintro rfl
    exact .done

theorem not_fillsInOrder : ¬ FillsInOrder state [] (element :: elements) last :=
  nofun

theorem fillsInOrder_cons_iff :
    FillsInOrder state (slot :: slots) (element :: elements) last ↔
      ∃ value, slot.Spells element.text value ∧
        FillsInOrder (slot.set state value) slots elements last := by
  constructor
  · intro fills
    cases fills with
    | cons spells others => exact ⟨_, spells, others⟩
  · rintro ⟨value, spells, others⟩
    exact .cons spells others

/-- Elements are read as those of a whole list, together with its closing bracket. -/
def ReadsList (slots : List (Slot σ)) (first : Bool) (state : σ) (inner : List Token) (last : σ)
    (left : List Token) : Prop :=
  ∃ after, RecordReader.readElements (slots.map Slot.field) first state inner = .ok (last, after) ∧
    closeList after = .ok left

theorem readsList_closing_iff (slots : List (Slot σ)) (first : Bool) (state : σ) (rest : Bytes) :
    ReadsList slots first state (tokens (0x5D :: rest)) last left ↔
      last = state ∧ left = tokens rest := by
  have closing : tokens (0x5D :: rest) = .closing .list :: tokens rest :=
    Place.tokens_bracket rfl rest
  rw [closing]
  have read_eq : RecordReader.readElements (slots.map Slot.field) first state
      (.closing .list :: tokens rest) = .ok (state, .closing .list :: tokens rest) := by
    cases slots <;> rfl
  rw [ReadsList, read_eq]
  constructor
  · rintro ⟨after, elements_eq, close_eq⟩
    obtain ⟨rfl, rfl⟩ := Prod.mk.inj (Except.ok.inj elements_eq)
    exact ⟨rfl, (Except.ok.inj close_eq).symm⟩
  · rintro ⟨rfl, rfl⟩
    exact ⟨_, rfl, rfl⟩

/-- The tokens before an element, and those with which it begins. -/
theorem exists_tokens_element (first : Bool) (isValue : IsValue element.text)
    (ends : EndsNumber rest) :
    ∃ token after, tokens (element.octets ++ rest) = token :: after ∧
      (∀ closed, token ≠ .closing closed) ∧
      tokens ((if first then [] else [0x2C]) ++ (element.octets ++ rest)) =
        (if first then [] else [.comma]) ++ token :: after := by
  have value_ends := endsNumber_spaces element.after_spaces ends
  obtain ⟨token, after, shown, no_closing⟩ := Place.exists_token_of_isValue isValue value_ends
  rw [← Place.tokens_element] at shown
  refine ⟨token, after, shown, no_closing, ?_⟩
  have comma (after : Bytes) : tokens (0x2C :: after) = .comma :: tokens after :=
    Place.tokens_bracket rfl after
  cases first with
  | true => exact shown
  | false => rw [if_neg Bool.false_ne_true, if_neg Bool.false_ne_true, List.singleton_append, comma,
      shown, List.singleton_append]

theorem nextElement_of_no_closing (first : Bool) {token : Token} {after : List Token}
    (no_closing : ∀ closed, token ≠ .closing closed) :
    nextElement first ((if first then [] else [.comma]) ++ token :: after) =
      .ok (true, token :: after) := by
  cases first <;> cases token with
  | closing closed => exact absurd rfl (no_closing closed)
  | opening | colon | comma | word | number | text | junk => rfl

/-- An element is read into the first slot, and those that follow it into the others. -/
theorem readsList_cons_iff (first : Bool) (isValue : IsValue element.text)
    (ends : EndsNumber rest) :
    ReadsList (slot :: slots) first state
        (tokens ((if first then [] else [0x2C]) ++ (element.octets ++ rest))) last left ↔
      ∃ value, slot.Spells element.text value ∧
        ReadsList slots false (slot.set state value) (tokens rest) last left := by
  have value_ends := endsNumber_spaces element.after_spaces ends
  obtain ⟨token, after, shown, no_closing, begins⟩ := exists_tokens_element first isValue ends
  have read_iff (value : slot.Value) (left : List Token) :
      slot.read (token :: after) = .ok (value, left) ↔
        slot.Spells element.text value ∧ left = tokens rest := by
    rw [← shown, Place.tokens_element, slot.reads.iff isValue value_ends,
      tokens_spaces element.after_spaces]
  rw [begins, ReadsList]
  simp only [List.map_cons, RecordReader.readElements, nextElement_of_no_closing first no_closing,
    Slot.field]
  constructor
  · rintro ⟨closing, read_eq, close_eq⟩
    rcases value_eq : slot.read (token :: after) with fault | ⟨value, behind⟩
    · simp only [value_eq, Except.map, reduceCtorEq] at read_eq
    · obtain ⟨spells, rfl⟩ := (read_iff value behind).mp value_eq
      simp only [value_eq, Except.map] at read_eq
      exact ⟨value, spells, closing, read_eq, close_eq⟩
  · rintro ⟨value, spells, closing, read_eq, close_eq⟩
    refine ⟨closing, ?_, close_eq⟩
    simp only [(read_iff value _).mpr ⟨spells, rfl⟩, Except.map]
    exact read_eq

/-- An element more than there are slots is not passed. -/
theorem not_readsList (first : Bool) (isValue : IsValue element.text) (ends : EndsNumber rest) :
    ¬ ReadsList [] first state
      (tokens ((if first then [] else [0x2C]) ++ (element.octets ++ rest))) last left := by
  obtain ⟨token, after, _, no_closing, begins⟩ := exists_tokens_element first isValue ends
  rintro ⟨closing, read_eq, close_eq⟩
  obtain ⟨rfl, rfl⟩ := Prod.mk.inj (Except.ok.inj read_eq)
  rw [begins] at close_eq
  cases first with
  | false => cases close_eq
  | true =>
      cases token with
      | closing closed => exact no_closing closed rfl
      | opening | colon | comma | word | number | text | junk => cases close_eq

theorem readsList_continued_iff (values : ∀ element ∈ elements, IsValue element.text) :
    ReadsList slots false state
        (tokens (continued (elements.map Element.octets) ++ 0x5D :: rest)) last left ↔
      FillsInOrder state slots elements last ∧ left = tokens rest := by
  induction elements generalizing slots state with
  | nil =>
      rw [List.map_nil, continued, List.flatMap_nil, List.nil_append, readsList_closing_iff,
        fillsInOrder_nil_iff]
  | cons element elements ih =>
      obtain ⟨isValue, others⟩ := List.forall_mem_cons.mp values
      have ends :=
        Place.endsNumber_continued (elements.map Element.octets) (endsNumber_bracket rest)
      rw [List.map_cons, continued_cons, List.append_assoc, List.append_assoc]
      cases slots with
      | nil =>
          exact ⟨fun reads => absurd reads (not_readsList false isValue ends),
            fun fills => absurd fills.1 not_fillsInOrder⟩
      | cons slot slots =>
          refine (readsList_cons_iff false isValue ends).trans ?_
          simp only [ih others, fillsInOrder_cons_iff, ← and_assoc, exists_and_right]

/-- The elements of a list are read exactly if they fill the slots. -/
theorem readsList_iff (spaces : IsSpaces space)
    (values : ∀ element ∈ elements, IsValue element.text) :
    ReadsList slots true state
        (tokens (separated space (elements.map Element.octets) ++ 0x5D :: rest)) last left ↔
      FillsInOrder state slots elements last ∧ left = tokens rest := by
  cases elements with
  | nil =>
      rw [List.map_nil, separated, tokens_spaces spaces, readsList_closing_iff,
        fillsInOrder_nil_iff]
  | cons element elements =>
      obtain ⟨isValue, others⟩ := List.forall_mem_cons.mp values
      have ends :=
        Place.endsNumber_continued (elements.map Element.octets) (endsNumber_bracket rest)
      rw [List.map_cons, separated, List.append_assoc]
      cases slots with
      | nil =>
          exact ⟨fun reads => absurd reads (not_readsList true isValue ends),
            fun fills => absurd fills.1 not_fillsInOrder⟩
      | cons slot slots =>
          refine (readsList_cons_iff true isValue ends).trans ?_
          simp only [readsList_continued_iff others, fillsInOrder_cons_iff, ← and_assoc,
            exists_and_right]

theorem nextElement_cases {first : Bool} {shown after : List Token} {more : Bool}
    (next_eq : nextElement first shown = .ok (more, after)) :
    (more = false ∧ after = shown ∧ ∃ rest, shown = .closing .list :: rest) ∨
      more = true ∧ shown = (if first then [] else [.comma]) ++ after := by
  unfold nextElement at next_eq
  split at next_eq
  · cases next_eq
  · cases next_eq
    exact .inl ⟨rfl, rfl, _, rfl⟩
  · split at next_eq
    · cases next_eq
    · cases next_eq
    · next passed =>
        cases next_eq
        exact .inr ⟨rfl, eq_of_passComma passed⟩

theorem exists_of_closeList {shown : List Token} (close_eq : closeList shown = .ok left) :
    shown = .closing .list :: left := by
  rcases shown with _ | ⟨token, shown⟩
  · cases close_eq
  · cases token with
    | closing shape =>
        cases shape with
        | list => rw [Except.ok.inj close_eq]
        | object => cases close_eq
    | opening | colon | comma | word | number | text | junk => cases close_eq

theorem closes_of_readsList {shown : List Token}
    (reads : ReadsList slots false state shown last left) : Closes shown := by
  obtain ⟨after, read_eq, close_eq⟩ := reads
  cases slots with
  | nil =>
      obtain ⟨rfl, rfl⟩ := Prod.mk.inj (Except.ok.inj read_eq)
      rw [exists_of_closeList close_eq]
      rintro _ ⟨⟩
      exact .inr ⟨.list, rfl⟩
  | cons slot slots =>
      rw [List.map_cons, RecordReader.readElements] at read_eq
      rcases next_eq : nextElement false shown with fault | ⟨more, behind⟩
      · simp only [next_eq, reduceCtorEq] at read_eq
      · rcases nextElement_cases next_eq with ⟨_, _, rest, rfl⟩ | ⟨_, rfl⟩
        · rintro _ ⟨⟩
          exact .inr ⟨.list, rfl⟩
        · rintro _ ⟨⟩
          exact .inl rfl

theorem membersFrom_nil (first : Bool) (space : Bytes) : membersFrom first space [] = space := by
  cases first with
  | true => rfl
  | false =>
      rw [membersFrom, if_neg Bool.false_ne_true, continued, List.flatMap_nil, List.append_nil]

/-- What stands before a closing bracket is a list without elements. -/
theorem exists_elements_of_closing (first : Bool) {source : Bytes}
    (shown : tokens source = .closing .list :: left) :
    ∃ (space : Bytes) (elements : List Element) (rest : Bytes),
      IsSpaces space ∧ (∀ element ∈ elements, IsValue element.text) ∧
      source = membersFrom first space (elements.map Element.octets) ++ 0x5D :: rest ∧
      left = tokens rest := by
  obtain ⟨space, rest, spaces, source_eq, left_eq⟩ := exists_mark shown rfl
  refine ⟨space, [], rest, spaces, List.forall_mem_nil _, ?_, left_eq⟩
  rw [source_eq, List.map_nil, membersFrom_nil]

/-- What is read as elements is a sequence of them and the bracket that closes them. -/
theorem exists_elements {first : Bool} {source : Bytes}
    (reads : ReadsList slots first state (tokens source) last left) :
    ∃ (space : Bytes) (elements : List Element) (rest : Bytes),
      IsSpaces space ∧ (∀ element ∈ elements, IsValue element.text) ∧
      source = membersFrom first space (elements.map Element.octets) ++ 0x5D :: rest ∧
      left = tokens rest := by
  induction slots generalizing first state source with
  | nil =>
      obtain ⟨after, read_eq, close_eq⟩ := reads
      obtain ⟨rfl, rfl⟩ := Prod.mk.inj (Except.ok.inj read_eq)
      exact exists_elements_of_closing first (exists_of_closeList close_eq)
  | cons slot slots ih =>
      obtain ⟨after, read_eq, close_eq⟩ := reads
      rw [List.map_cons, RecordReader.readElements] at read_eq
      rcases next_eq : nextElement first (tokens source) with fault | ⟨more, shown⟩
      · simp only [next_eq, reduceCtorEq] at read_eq
      rcases nextElement_cases next_eq with ⟨rfl, rfl, rest, source_shown⟩ | ⟨rfl, source_shown⟩
      · simp only [next_eq, Except.ok.injEq, Prod.mk.injEq] at read_eq
        rw [← read_eq.2] at close_eq
        exact exists_elements_of_closing first (exists_of_closeList close_eq)
      rcases value_eq : slot.read shown with fault | ⟨value, behind⟩
      · simp only [next_eq, Slot.field, value_eq, Except.map, reduceCtorEq] at read_eq
      simp only [next_eq, Slot.field, value_eq, Except.map] at read_eq
      have others : ReadsList slots false (slot.set state value) behind last left :=
        ⟨after, read_eq, close_eq⟩
      have closes := closes_of_readsList others
      cases first with
      | true =>
          rw [if_pos rfl, List.nil_append] at source_shown
          rw [← source_shown] at value_eq
          obtain ⟨before, text, rest, before_spaces, rfl, isValue, rfl⟩ :=
            slot.reads.exists_value value_eq closes
          obtain ⟨space, elements, tail, spaces, values, rfl, left_eq⟩ := ih others
          refine ⟨[], ⟨before, text, space, before_spaces, spaces⟩ :: elements, tail,
            List.forall_mem_nil _, List.forall_mem_cons.mpr ⟨isValue, values⟩, ?_, left_eq⟩
          simp only [membersFrom, Bool.false_eq_true, if_false, if_true, List.map_cons, separated,
            Element.octets, List.append_assoc]
      | false =>
          obtain ⟨front, comma_rest, front_spaces, rfl, rfl⟩ := exists_mark source_shown rfl
          obtain ⟨before, text, rest, before_spaces, rfl, isValue, rfl⟩ :=
            slot.reads.exists_value value_eq closes
          obtain ⟨space, elements, tail, spaces, values, rfl, left_eq⟩ := ih others
          refine ⟨front, ⟨before, text, space, before_spaces, spaces⟩ :: elements, tail,
            front_spaces, List.forall_mem_cons.mpr ⟨isValue, values⟩, ?_, left_eq⟩
          simp only [membersFrom, Bool.false_eq_true, if_false, List.map_cons, continued_cons,
            Element.octets, List.append_assoc, List.nil_append, List.cons_append]

end

/-! ## Documents -/

theorem tokens_eq_nil_iff {source : Bytes} : [] = tokens source ↔ IsSpaces source :=
  ⟨fun nothing => isSpaces_of_tokens nothing.symm, fun spaces => (tokens_of_spaces spaces).symm⟩

/-- A document is a record and white space. -/
theorem readDocument_eq_ok_iff {record : RecordReader σ α} {source : Bytes} {value : α} :
    record.readDocument source = .ok value ↔ record.read (tokens source) = .ok (value, []) := by
  constructor
  · intro document_eq
    obtain ⟨⟨made, left⟩, read_eq, ended⟩ := ok_of_bind document_eq
    cases left with
    | nil =>
        cases ended
        exact read_eq
    | cons token left => cases ended
  · intro read_eq
    rw [RecordReader.readDocument, read_eq]
    rfl

theorem read_list_eq_ok_iff {record : RecordReader σ α} (layout : Layout record)
    {inner left : List Token} {value : α} :
    record.read (.opening .list :: inner) = .ok (value, left) ↔
      ∃ last, ReadsList layout.slots true record.start inner last left ∧
        record.finish last = some value := by
  constructor
  · intro read_eq
    obtain ⟨⟨last, after⟩, elements_eq, read_eq⟩ := ok_of_bind read_eq
    obtain ⟨made, complete_eq, read_eq⟩ := ok_of_bind read_eq
    obtain ⟨closed, close_eq, read_eq⟩ := ok_of_bind read_eq
    cases read_eq
    rw [layout.fields_eq] at elements_eq
    exact ⟨last, ⟨after, elements_eq, close_eq⟩, Layout.complete_eq_ok_iff.mp complete_eq⟩
  · rintro ⟨last, ⟨after, elements_eq, close_eq⟩, finish_eq⟩
    rw [RecordReader.read, layout.fields_eq, elements_eq]
    simp only [bind, Except.bind, Layout.complete_eq_ok_iff.mpr finish_eq, close_eq]

namespace Layout

variable {record : RecordReader σ α} (layout : Layout record) {before space tail : Bytes}
  {value : α}

/-- An object is read as a document exactly if its members describe a state that can be finished,
and only white space follows. -/
theorem readDocument_object_iff {properties : List Property} (before_spaces : IsSpaces before)
    (spaces : IsSpaces space) (members : AreMembers properties) :
    record.readDocument (before ++ (objectOctets space properties ++ tail)) = .ok value ↔
      (∃ last, layout.Describes properties last ∧ record.finish last = some value) ∧
        IsSpaces tail := by
  rw [readDocument_eq_ok_iff, tokens_spaces before_spaces, layout.read_object_iff spaces members,
    tokens_eq_nil_iff]

/-- A list is read as a document exactly if its elements fill the slots of a state that can be
finished, and only white space follows. -/
theorem readDocument_list_iff {elements : List Element} (before_spaces : IsSpaces before)
    (spaces : IsSpaces space) (values : ∀ element ∈ elements, IsValue element.text) :
    record.readDocument (before ++ (listOctets space elements ++ tail)) = .ok value ↔
      (∃ last, FillsInOrder record.start layout.slots elements last ∧
        record.finish last = some value) ∧ IsSpaces tail := by
  have shown : tokens (listOctets space elements ++ tail) =
      .opening .list :: tokens (separated space (elements.map Element.octets) ++ 0x5D :: tail) := by
    rw [listOctets, Place.bracketed_append, Place.tokens_bracket rfl]
    rfl
  rw [readDocument_eq_ok_iff, tokens_spaces before_spaces, shown, read_list_eq_ok_iff layout]
  simp only [readsList_iff spaces values, tokens_eq_nil_iff]
  constructor
  · rintro ⟨last, ⟨fills, spaces⟩, finish_eq⟩
    exact ⟨⟨last, fills, finish_eq⟩, spaces⟩
  · rintro ⟨⟨last, fills, finish_eq⟩, spaces⟩
    exact ⟨last, ⟨fills, spaces⟩, finish_eq⟩

end Layout

/-- What is read as a record begins with a bracket. -/
theorem exists_of_read {record : RecordReader σ α} {shown : List Token} {result : α × List Token}
    (read_eq : record.read shown = .ok result) :
    ∃ shape inner, shown = .opening shape :: inner := by
  rcases shown with _ | ⟨token, shown⟩
  · cases read_eq
  · cases token with
    | opening shape => exact ⟨shape, shown, rfl⟩
    | closing | colon | comma | word | number | text | junk => cases read_eq

/-- Only an object or a list is read as a record, whatever follows the value. -/
theorem bracketed_of_readDocument {record : RecordReader σ α} {before text tail : Bytes} {value : α}
    (before_spaces : IsSpaces before) (isValue : IsValue text)
    (document_eq : record.readDocument (before ++ (text ++ tail)) = .ok value) :
    (∃ space elements, IsSpaces space ∧ (∀ element ∈ elements, IsValue element.text) ∧
      text = listOctets space elements) ∨
    ∃ space properties, IsSpaces space ∧ AreMembers properties ∧
      text = objectOctets space properties := by
  rw [readDocument_eq_ok_iff, tokens_spaces before_spaces] at document_eq
  obtain ⟨shape, inner, shown⟩ := exists_of_read document_eq
  cases isValue with
  | word isWord => cases (tokens_of_lexed (.word isWord)).symm.trans shown
  | number isNumber =>
      obtain ⟨first, more, rfl, begins⟩ := exists_of_isNumber isNumber
      obtain ⟨no_space, no_mark, _⟩ := lexical_of_number begins
      obtain ⟨blank, rest, blanks, source_eq, _⟩ :=
        exists_mark shown (Place.markOctet?_opening shape)
      rcases blank with _ | ⟨octet, blank⟩
      · obtain ⟨rfl, _⟩ := List.cons.inj source_eq
        cases shape <;> cases no_mark
      · obtain ⟨rfl, _⟩ := List.cons.inj source_eq
        exact absurd (blanks first List.mem_cons_self) (ne_true_of_eq_false no_space)
  | text isLiteral => cases (tokens_of_lexed (.text isLiteral)).symm.trans shown
  | list spaces values => exact .inl ⟨_, _, spaces, values, rfl⟩
  | object spaces keys values => exact .inr ⟨_, _, spaces, ⟨keys, values⟩, rfl⟩

/-- What is read as a document is an object or a list in this way, with white space around it. -/
theorem Layout.exists_of_readDocument {record : RecordReader σ α} (layout : Layout record)
    {source : Bytes} {value : α} (document_eq : record.readDocument source = .ok value) :
    ∃ before text tail, IsSpaces before ∧ IsSpaces tail ∧ source = before ++ (text ++ tail) ∧
      ((∃ space properties last, IsSpaces space ∧ AreMembers properties ∧
          text = objectOctets space properties ∧ layout.Describes properties last ∧
          record.finish last = some value) ∨
        ∃ space elements last, IsSpaces space ∧ (∀ element ∈ elements, IsValue element.text) ∧
          text = listOctets space elements ∧
          FillsInOrder record.start layout.slots elements last ∧
          record.finish last = some value) := by
  have read_eq := readDocument_eq_ok_iff.mp document_eq
  obtain ⟨shape, inner, shown⟩ := exists_of_read read_eq
  cases shape with
  | object =>
      obtain ⟨before, space, properties, tail, before_spaces, spaces, members, rfl, _⟩ :=
        layout.exists_object shown read_eq
      obtain ⟨⟨last, describes, finish_eq⟩, tail_spaces⟩ :=
        (layout.readDocument_object_iff before_spaces spaces members).mp document_eq
      exact ⟨before, _, tail, before_spaces, tail_spaces, rfl,
        .inl ⟨space, properties, last, spaces, members, rfl, describes, finish_eq⟩⟩
  | list =>
      rw [shown, read_list_eq_ok_iff layout] at read_eq
      obtain ⟨last, reads, _⟩ := read_eq
      obtain ⟨before, behind, before_spaces, rfl, rfl⟩ := exists_mark shown rfl
      obtain ⟨space, elements, tail, spaces, values, rfl, _⟩ := exists_elements reads
      have source_eq : (before ++ 0x5B ::
          (membersFrom true space (elements.map Element.octets) ++ 0x5D :: tail) : Bytes) =
            before ++ (listOctets space elements ++ tail) := by
        rw [listOctets, Place.bracketed_append, membersFrom, if_pos rfl]
        rfl
      rw [source_eq, layout.readDocument_list_iff before_spaces spaces values] at document_eq
      obtain ⟨⟨last, fills, finish_eq⟩, tail_spaces⟩ := document_eq
      exact ⟨before, _, tail, before_spaces, tail_spaces, source_eq,
        .inr ⟨space, elements, last, spaces, values, rfl, fills, finish_eq⟩⟩

end RemoteTail.Json

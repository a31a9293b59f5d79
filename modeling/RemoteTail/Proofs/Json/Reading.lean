import RemoteTail.Proofs.Json.Skipping

/-!
# Values that are read

A reader takes the values that are spelt in some way and no others, and takes all
of such a value (`Reads`).  So do the readers of strings, integers and words, and
so does the walk that skips a value.

The members of an object are read one after another, each into the state that the
ones before it have left (`Collects`, `ReadsMember.readMembers_iff`).
-/

namespace RemoteTail.Json

/-- A reader reads the values that are spelt in the given way, and those only.  What it reads where
something closes is a value in any case. -/
structure Reads {α : Type} (read : Reader α) (Spells : Bytes → α → Prop) : Prop where
  iff : ∀ {text rest value left}, IsValue text → EndsNumber rest →
    (read (tokens (text ++ rest)) = .ok (value, left) ↔ Spells text value ∧ left = tokens rest)
  exists_value : ∀ {source value left}, read (tokens source) = .ok (value, left) → Closes left →
    ∃ space text rest, IsSpaces space ∧ source = space ++ (text ++ rest) ∧ IsValue text ∧
      left = tokens rest

namespace Reads

variable {α β : Type} {read : Reader α} {Spells : Bytes → α → Prop}

theorem congr {Writes : Bytes → α → Prop} (reads : Reads read Spells)
    (same : ∀ text value, Spells text value ↔ Writes text value) : Reads read Writes where
  iff := fun isValue ends => (reads.iff isValue ends).trans (and_congr_left' (same _ _))
  exists_value := reads.exists_value

theorem map (reads : Reads read Spells) (make : α → β) :
    Reads (fun source => (read source).map fun (value, left) => (make value, left))
      (fun text made => ∃ value, Spells text value ∧ made = make value) where
  iff := by
    intro text rest made left isValue ends
    constructor
    · intro map_eq
      obtain ⟨⟨value, after⟩, read_eq, made_eq⟩ := exists_of_map map_eq
      obtain ⟨rfl, rfl⟩ := Prod.mk.inj made_eq
      obtain ⟨spells, left_eq⟩ := (reads.iff isValue ends).mp read_eq
      exact ⟨⟨value, spells, rfl⟩, left_eq⟩
    · rintro ⟨⟨value, spells, rfl⟩, rfl⟩
      rw [(reads.iff isValue ends).mpr ⟨spells, rfl⟩]
      rfl
  exists_value := by
    intro source made left map_eq closes
    obtain ⟨⟨value, after⟩, read_eq, made_eq⟩ := exists_of_map map_eq
    obtain ⟨rfl, rfl⟩ := Prod.mk.inj made_eq
    exact reads.exists_value read_eq closes

theorem error (fault : Fault) :
    Reads (fun _ => .error fault : Reader α) (fun _ _ => False) where
  iff := by simp
  exists_value := nofun

end Reads

/-- The token with which a value begins is an opening bracket or stands for the whole value. -/
theorem lexed_of_isValue {text rest : Bytes} (isValue : IsValue text) (ends : EndsNumber rest)
    {token : Token} {left : List Token} (shown : tokens (text ++ rest) = token :: left) :
    (∃ shape, token = .opening shape) ∨ Lexed token text rest ∧ left = tokens rest := by
  have whole {other : Token} (lexed : Lexed other text rest) :
      Lexed token text rest ∧ left = tokens rest := by
    obtain ⟨rfl, rfl⟩ := List.cons.inj ((tokens_of_lexed lexed).symm.trans shown)
    exact ⟨lexed, rfl⟩
  cases isValue with
  | word isWord => exact .inr (whole (.word isWord))
  | number isNumber =>
      exact .inr (whole (.number isNumber (Number.skip_of_isNumber isNumber ends)))
  | text isLiteral => exact .inr (whole (.text isLiteral))
  | list => exact .inl ⟨.list, (List.cons.inj (shown.symm.trans (Place.tokens_bracket rfl _))).1⟩
  | object =>
      exact .inl ⟨.object, (List.cons.inj (shown.symm.trans (Place.tokens_bracket rfl _))).1⟩

/-! ## Strings -/

/-- Octets are a string that spells a text. -/
def SpellsText (text : Bytes) (value : String) : Prop :=
  ∃ literal, text = quoted literal ∧ Literal literal value.toList

theorem exists_of_readText {source left : List Token} {value : String}
    (read_eq : readText source = .ok (value, left)) :
    ∃ verdict, source = .text (.ok value.toList) verdict :: left := by
  rcases source with _ | ⟨token, after⟩
  · cases read_eq
  cases token with
  | text chars verdict =>
      obtain ⟨chars, rfl, value_eq⟩ := exists_of_map read_eq
      obtain ⟨rfl, rfl⟩ := Prod.mk.inj value_eq
      exact ⟨verdict, by rw [String.toList_ofList]⟩
  | opening | closing | colon | comma | word | number | junk => cases read_eq

theorem reads_text : Reads readText SpellsText where
  iff := by
    intro text rest value left isValue ends
    constructor
    · intro read_eq
      obtain ⟨verdict, shown⟩ := exists_of_readText read_eq
      rcases lexed_of_isValue isValue ends shown with ⟨shape, token_eq⟩ | ⟨lexed, left_eq⟩
      · cases token_eq
      · obtain ⟨literal, isLiteral, rfl, value_eq⟩ := exists_literal_of_lexed lexed
        exact ⟨⟨literal, rfl, (isLiteral.read_eq_ok_iff rest).mp value_eq.symm⟩, left_eq⟩
    · rintro ⟨⟨literal, rfl, spells⟩, rfl⟩
      rw [tokens_of_lexed (.text spells.isLiteral), Quoted.read_of_literal spells, readText]
      exact congrArg (fun value => Except.ok (value, tokens rest)) String.ofList_toList
  exists_value := by
    intro source value left read_eq _
    obtain ⟨verdict, shown⟩ := exists_of_readText read_eq
    obtain rfl := skippable_of_text shown
    obtain ⟨space, text, rest, spaces, source_eq, lexed, left_eq⟩ := exists_lexed shown rfl
    exact ⟨space, text, rest, spaces, source_eq, Place.isValue_of_lexed lexed (.text _), left_eq⟩

/-! ## Integers -/

/-- Octets are the numeral of an integer within bounds. -/
def SpellsInt (least greatest : Int) (text : Bytes) (value : Int) : Prop :=
  text = Bytes.ofChars (intText value) ∧ least ≤ value ∧ value ≤ greatest

/-- Octets are the numeral of an unsigned integer of 64 bits. -/
def SpellsWord (text : Bytes) (value : Nat) : Prop :=
  text = Bytes.ofChars (Decimal.digits value) ∧ value < 2 ^ 64

theorem exists_of_readInt {least greatest value : Int} {source left : List Token}
    (read_eq : readInt least greatest source = .ok (value, left)) :
    ∃ verdict, source = .number (.ok (.int value)) verdict :: left := by
  rw [readInt.eq_def] at read_eq
  split at read_eq
  · cases read_eq
  · split at read_eq
    · cases read_eq
      exact ⟨_, rfl⟩
    · cases read_eq
  · cases read_eq

theorem exists_number_of_lexed {value : Except Fault Number} {verdict : Except Fault Unit}
    {text rest : Bytes} (lexed : Lexed (.number value verdict) text rest) :
    value = Number.read (text ++ rest) ∧ Number.skip (text ++ rest) = .ok rest := by
  cases lexed with
  | mark isMark => cases markOctet?_of_mark? isMark
  | number isNumber taken => exact ⟨rfl, taken⟩

theorem reads_int {least greatest : Int} (above : -2 ^ 63 ≤ least) (below : greatest < 2 ^ 64) :
    Reads (readInt least greatest) (SpellsInt least greatest) where
  iff := by
    intro text rest value left isValue ends
    constructor
    · intro read_eq
      have bounds := readInt_bounds read_eq
      obtain ⟨verdict, shown⟩ := exists_of_readInt read_eq
      rcases lexed_of_isValue isValue ends shown with ⟨shape, token_eq⟩ | ⟨lexed, left_eq⟩
      · cases token_eq
      · obtain ⟨read_int, taken⟩ := exists_number_of_lexed lexed
        obtain ⟨after, text_eq, after_ends, _⟩ := Number.read_eq_int_iff.mp read_int.symm
        -- The numeral is skipped as the whole value is, so that it is all of the value.
        rw [text_eq, Number.skip_of_isNumber (Number.isNumber_intText value) after_ends,
          Except.ok.injEq] at taken
        subst taken
        exact ⟨⟨List.append_cancel_right text_eq, bounds⟩, left_eq⟩
    · rintro ⟨⟨rfl, least_le, le_greatest⟩, rfl⟩
      have isNumber := Number.isNumber_intText value
      have lexed := Lexed.number isNumber (Number.skip_of_isNumber isNumber ends)
      have read_eq : Number.read (Bytes.ofChars (intText value) ++ rest) = .ok (.int value) :=
        Number.read_eq_int_iff.mpr ⟨rest, rfl, ends, by omega, by omega⟩
      rw [tokens_of_lexed lexed, read_eq, readInt, if_pos]
      simp [least_le, le_greatest]
  exists_value := by
    intro source value left read_eq _
    obtain ⟨verdict, shown⟩ := exists_of_readInt read_eq
    obtain rfl := skippable_of_int shown
    obtain ⟨space, text, rest, spaces, source_eq, lexed, left_eq⟩ := exists_lexed shown rfl
    exact ⟨space, text, rest, spaces, source_eq, Place.isValue_of_lexed lexed (.number _), left_eq⟩

theorem reads_word : Reads readWord SpellsWord := by
  refine ((@reads_int 0 0xFFFFFFFFFFFFFFFF (by omega) (by omega)).map Int.toNat).congr ?_
  intro text value
  constructor
  · rintro ⟨signed, ⟨rfl, above, below⟩, rfl⟩
    obtain ⟨size, rfl⟩ := Int.eq_ofNat_of_zero_le above
    exact ⟨rfl, by omega⟩
  · rintro ⟨rfl, small⟩
    exact ⟨value, ⟨rfl, by omega, by omega⟩, rfl⟩

/-! ## Values of any kind -/

/-- A value that is skipped leaves the state as it is. -/
theorem reads_skip {σ : Type} (state : σ) :
    Reads (fun source => (skipValue source).map fun left => (state, left))
      (fun _ next => next = state) where
  iff := by
    intro text rest next left isValue ends
    rw [skipValue_of_isValue isValue ends]
    simp only [Except.map, Except.ok.injEq, Prod.mk.injEq]
    exact and_congr eq_comm eq_comm
  exists_value := by
    intro source next left map_eq _
    obtain ⟨after, skipped, left_eq⟩ := exists_of_map map_eq
    obtain ⟨rfl, rfl⟩ := Prod.mk.inj left_eq
    exact exists_of_skipValue skipped

end RemoteTail.Json

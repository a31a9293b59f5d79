import RemoteTail.Proofs.Json.Documents
import RemoteTail.Remote.Chunk

/-!
# Read responses and the texts that render them

A JSON text renders a text and an integer if it is an object with exactly one
member `data` and exactly one member `offset`, whatever else it has, or a list of
the two (`Renders`).  Such a text is decoded for the octets of the text and for the
integer, if this is an offset at all, and nothing else is decoded
(`decode_renders`).
-/

namespace RemoteTail.Chunk

open Json

/-! ## Slots -/

/-- The slot of the field `data`. -/
def dataSlot : Slot Draft where
  Value := String
  name := "data"
  get := Draft.data
  set := fun draft value => { draft with data := some value }
  read := readText
  Spells := SpellsText
  reads := reads_text
  get_set := fun _ _ => rfl

/-- The slot of the field `offset`. -/
def offsetSlot : Slot Draft where
  Value := Int
  name := "offset"
  get := Draft.offset
  set := fun draft value => { draft with offset := some value }
  read := readInt (-0x8000000000000000) 0x7FFFFFFFFFFFFFFF
  Spells := SpellsInt (-0x8000000000000000) 0x7FFFFFFFFFFFFFFF
  reads := reads_int (by omega) (by omega)
  get_set := fun _ _ => rfl

/-- The slots of a read response. -/
def layout : Layout record where
  slots := [dataSlot, offsetSlot]
  fields_eq := rfl
  names := by decide
  blank := by
    simp only [List.forall_mem_cons, List.not_mem_nil, false_implies, implies_true, and_true]
    exact ⟨rfl, rfl⟩
  apart := by
    simp only [List.forall_mem_cons, List.not_mem_nil, false_implies, implies_true, and_true]
    exact ⟨⟨fun same => absurd rfl same, fun _ _ _ => rfl⟩, fun _ _ _ => rfl,
      fun same => absurd rfl same⟩
  ext := by
    simp only [List.forall_mem_cons, List.not_mem_nil, false_implies, implies_true, and_true]
    rintro ⟨data, offset⟩ ⟨other, otherOffset⟩ ⟨rfl, rfl⟩
    rfl

theorem describes_iff {properties : List Property} {draft : Draft} :
    layout.Describes properties draft ↔
      (∀ property ∈ properties, ∃ key : String, Literal property.key key.toList) ∧
        Gives "data" SpellsText properties draft.data ∧
        Gives "offset" (SpellsInt (-0x8000000000000000) 0x7FFFFFFFFFFFFFFF) properties
          draft.offset := by
  constructor
  · rintro ⟨keys, gives⟩
    exact ⟨keys, gives dataSlot List.mem_cons_self,
      gives offsetSlot (List.mem_cons_of_mem _ List.mem_cons_self)⟩
  · rintro ⟨keys, data, offset⟩
    refine ⟨keys, ?_⟩
    simp only [layout, List.forall_mem_cons, List.not_mem_nil, false_implies, implies_true,
      and_true]
    exact ⟨data, offset⟩

theorem finish_eq_some_iff {draft : Draft} {value : String × Int} :
    record.finish draft = some value ↔ draft = ⟨some value.1, some value.2⟩ := by
  obtain ⟨data, offset⟩ := draft
  obtain ⟨text, number⟩ := value
  cases data <;> cases offset <;> simp [record]

/-! ## Renderings -/

/-- Octets are the plain numeral of an integer. -/
def SpellsInteger (text : Bytes) (number : Int) : Prop :=
  text = Bytes.ofChars (intText number)

/-- A JSON text renders a text and an integer as a read response. -/
inductive Renders (text : String) (number : Int) : Bytes → Prop where
  /-- By the members `data` and `offset` of an object, in any order and among any others. -/
  | object {before space after : Bytes} {properties : List Property}
      (before_spaces : IsSpaces before) (spaces : IsSpaces space) (after_spaces : IsSpaces after)
      (keys : ∀ property ∈ properties, ∃ key : String, Literal property.key key.toList)
      (values : ∀ property ∈ properties, IsValue property.value.text)
      (data : Gives "data" SpellsText properties (some text))
      (offset : Gives "offset" SpellsInteger properties (some number)) :
      Renders text number (before ++ (objectOctets space properties ++ after))
  /-- By the elements of a list. -/
  | list {before after : Bytes} {data offset : Element} (before_spaces : IsSpaces before)
      (after_spaces : IsSpaces after) (data_spelt : SpellsText data.text text)
      (offset_spelt : SpellsInteger offset.text number) :
      Renders text number (before ++ (listOctets [] [data, offset] ++ after))

/-- An offset is an integer of 64 bits where it is read. -/
def IsSigned (number : Int) : Prop :=
  -2 ^ 63 ≤ number ∧ number ≤ 2 ^ 63 - 1

theorem spellsInt_iff {text : Bytes} {number : Int} :
    SpellsInt (-0x8000000000000000) 0x7FFFFFFFFFFFFFFF text number ↔
      SpellsInteger text number ∧ IsSigned number := by
  refine and_congr_right fun _ => ?_
  unfold IsSigned
  omega

theorem areMembers_of_keys {properties : List Property}
    (keys : ∀ property ∈ properties, ∃ key : String, Literal property.key key.toList)
    (values : ∀ property ∈ properties, IsValue property.value.text) : AreMembers properties where
  keys := fun property member => (keys property member).elim fun _ named => named.isLiteral
  values := values

theorem isValue_of_spellsInteger {text : Bytes} {number : Int}
    (spells : SpellsInteger text number) : IsValue text := by
  rw [SpellsInteger] at spells
  rw [spells]
  exact .number (Number.isNumber_intText number)

/-- Two elements fill the slots exactly if they spell the two fields. -/
theorem fillsInOrder_iff {elements : List Element} {text : String} {number : Int} :
    FillsInOrder record.start layout.slots elements ⟨some text, some number⟩ ↔
      ∃ data offset, elements = [data, offset] ∧ SpellsText data.text text ∧
        SpellsInteger offset.text number ∧ IsSigned number := by
  constructor
  · intro fills
    cases fills with
    | cons data_spelt fills =>
        cases fills with
        | cons offset_spelt fills =>
            cases fills with
            | done => exact ⟨_, _, rfl, data_spelt, spellsInt_iff.mp offset_spelt⟩
  · rintro ⟨data, offset, rfl, data_spelt, offset_spelt, signed⟩
    exact @FillsInOrder.cons _ _ _ dataSlot _ _ _ text data_spelt
      (@FillsInOrder.cons _ _ _ offsetSlot _ _ _ number
        (spellsInt_iff.mpr ⟨offset_spelt, signed⟩) .done)

/-! ## Bodies that are read -/

theorem isValue_of_mem_pair {data offset : Element} {text : String} {number : Int}
    (data_spelt : SpellsText data.text text) (offset_spelt : SpellsInteger offset.text number) :
    ∀ element ∈ [data, offset], IsValue element.text :=
  List.forall_mem_cons.mpr ⟨data_spelt.isValue,
    List.forall_mem_singleton.mpr (isValue_of_spellsInteger offset_spelt)⟩

/-- A rendering is read for its text and its integer, if this has 64 bits. -/
theorem Renders.readDocument {text : String} {number : Int} {body : Bytes}
    (renders : Renders text number body) (signed : IsSigned number) :
    record.readDocument body = .ok (text, number) := by
  cases renders with
  | object before_spaces spaces after_spaces keys values data offset =>
      have offset_gives := offset.mono fun text spelt => spellsInt_iff.mpr ⟨spelt, signed⟩
      exact (layout.readDocument_object_iff before_spaces spaces
        (areMembers_of_keys keys values)).mpr
          ⟨⟨⟨some text, some number⟩, describes_iff.mpr ⟨keys, data, offset_gives⟩, rfl⟩,
            after_spaces⟩
  | list before_spaces after_spaces data_spelt offset_spelt =>
      exact (layout.readDocument_list_iff before_spaces (List.forall_mem_nil _)
        (isValue_of_mem_pair data_spelt offset_spelt)).mpr
          ⟨⟨⟨some text, some number⟩,
            fillsInOrder_iff.mpr ⟨_, _, rfl, data_spelt, offset_spelt, signed⟩, rfl⟩,
            after_spaces⟩

/-- A rendering of an integer beyond 64 bits is not read. -/
theorem Renders.isSigned {text : String} {number : Int} {body : Bytes}
    (renders : Renders text number body) {value : String × Int}
    (document_eq : record.readDocument body = .ok value) : IsSigned number := by
  cases renders with
  | object before_spaces spaces after_spaces keys values data offset =>
      obtain ⟨⟨draft, describes, finish_eq⟩, _⟩ :=
        (layout.readDocument_object_iff before_spaces spaces
          (areMembers_of_keys keys values)).mp document_eq
      obtain rfl := finish_eq_some_iff.mp finish_eq
      obtain ⟨spelt, number_spelt, read_spelt⟩ :=
        offset.exists_common (describes_iff.mp describes).2.2
      obtain ⟨read_spelt, signed⟩ := spellsInt_iff.mp read_spelt
      rwa [Number.intText_injective (number_spelt.symm.trans read_spelt)]
  | list before_spaces after_spaces data_spelt offset_spelt =>
      obtain ⟨⟨draft, fills, finish_eq⟩, _⟩ :=
        (layout.readDocument_list_iff before_spaces (List.forall_mem_nil _)
          (isValue_of_mem_pair data_spelt offset_spelt)).mp document_eq
      obtain rfl := finish_eq_some_iff.mp finish_eq
      obtain ⟨_, _, elements_eq, _, read_spelt, signed⟩ := fillsInOrder_iff.mp fills
      cases elements_eq
      rwa [Number.intText_injective (offset_spelt.symm.trans read_spelt)]

/-- What is read is a rendering. -/
theorem exists_renders {body : Bytes} {text : String} {number : Int}
    (document_eq : record.readDocument body = .ok (text, number)) :
    Renders text number body ∧ IsSigned number := by
  obtain ⟨before, spelt, tail, before_spaces, tail_spaces, rfl,
    ⟨space, properties, draft, spaces, members, rfl, describes, finish_eq⟩ |
      ⟨space, elements, draft, spaces, values, rfl, fills, finish_eq⟩⟩ :=
    layout.exists_of_readDocument document_eq
  · obtain rfl := finish_eq_some_iff.mp finish_eq
    obtain ⟨keys, data, offset⟩ := describes_iff.mp describes
    obtain ⟨spelt, _, bounded⟩ := offset.exists_common offset
    exact ⟨.object before_spaces spaces tail_spaces keys members.values data
      (offset.mono fun text spelt => (spellsInt_iff.mp spelt).1), (spellsInt_iff.mp bounded).2⟩
  · obtain rfl := finish_eq_some_iff.mp finish_eq
    obtain ⟨data, offset, rfl, data_spelt, offset_spelt, signed⟩ := fillsInOrder_iff.mp fills
    exact ⟨.list before_spaces tail_spaces data_spelt offset_spelt, signed⟩

/-! ## Bodies that are decoded -/

theorem exists_of_decode {body : Bytes} {chunk : Chunk} (decode_eq : decode body = .ok chunk) :
    ∃ text number, record.readDocument body = .ok (text, number) ∧ 0 ≤ number ∧
      chunk = ⟨Bytes.ofString text, number.toNat⟩ := by
  rw [decode] at decode_eq
  rcases document_eq : record.readDocument body with fault | ⟨text, number⟩
  · simp only [document_eq, reduceCtorEq] at decode_eq
  · simp only [document_eq] at decode_eq
    by_cases negative : number < 0
    · simp only [negative, if_true, reduceCtorEq] at decode_eq
    · simp only [negative, if_false, Except.ok.injEq] at decode_eq
      exact ⟨text, number, rfl, by omega, decode_eq.symm⟩

/-- What a body is decoded for, if it is a rendering: the text and the offset, or what is wrong with
the integer. -/
theorem Renders.decode {text : String} {number : Int} {body : Bytes}
    (renders : Renders text number body) :
    (0 ≤ number → number ≤ 2 ^ 63 - 1 →
      decode body = .ok ⟨Bytes.ofString text, number.toNat⟩) ∧
    (-2 ^ 63 ≤ number → number < 0 → decode body = .error (.invalidOffset number)) ∧
    (number < -2 ^ 63 ∨ 2 ^ 63 - 1 < number → ∃ fault, decode body = .error (.decode fault)) := by
  refine ⟨fun natural small => ?_, fun large negative => ?_, fun beyond => ?_⟩
  · have document_eq := renders.readDocument ⟨by omega, small⟩
    have not_negative : ¬ number < 0 := by omega
    simp only [Chunk.decode, document_eq, if_neg not_negative]
  · have document_eq := renders.readDocument ⟨large, by omega⟩
    simp only [Chunk.decode, document_eq, if_pos negative]
  · rcases document_eq : record.readDocument body with fault | value
    · exact ⟨fault, by simp only [Chunk.decode, document_eq]⟩
    · have signed := renders.isSigned document_eq
      unfold IsSigned at signed
      omega

/-- A body with more than white space after its value is not decoded. -/
theorem decode_ne_ok_of_tail {space text tail : Bytes} (spaces : IsSpaces space)
    (isValue : IsValue text) (more : ¬ IsSpaces tail) (chunk : Chunk) :
    Chunk.decode (space ++ (text ++ tail)) ≠ .ok chunk := by
  intro decode_eq
  obtain ⟨data, number, document_eq, _⟩ := exists_of_decode decode_eq
  rcases bracketed_of_readDocument spaces isValue document_eq with
    ⟨inner, elements, inner_spaces, values, rfl⟩ | ⟨inner, properties, inner_spaces, members, rfl⟩
  · exact more ((layout.readDocument_list_iff spaces inner_spaces values).mp document_eq).2
  · exact more ((layout.readDocument_object_iff spaces inner_spaces members).mp document_eq).2

/-- An object without exactly one member of either field is not decoded. -/
theorem occursOnce_of_decode {before space tail : Bytes} {properties : List Property}
    (before_spaces : IsSpaces before) (spaces : IsSpaces space) (members : AreMembers properties)
    {chunk : Chunk}
    (decode_eq : Chunk.decode (before ++ (objectOctets space properties ++ tail)) = .ok chunk) :
    OccursOnce "data" properties ∧ OccursOnce "offset" properties := by
  obtain ⟨data, number, document_eq, _⟩ := exists_of_decode decode_eq
  obtain ⟨⟨draft, describes, finish_eq⟩, _⟩ :=
    (layout.readDocument_object_iff before_spaces spaces members).mp document_eq
  obtain rfl := finish_eq_some_iff.mp finish_eq
  obtain ⟨_, data_gives, offset_gives⟩ := describes_iff.mp describes
  exact ⟨data_gives.occursOnce, offset_gives.occursOnce⟩

/-- Every rendering of a text and an integer is decoded for them, as far as the integer is an
offset, and every body that is decoded is the rendering of a text and an offset. -/
theorem decode_renders :
    (∀ text number body, Renders text number body →
      (0 ≤ number → number ≤ 2 ^ 63 - 1 →
        Chunk.decode body = .ok ⟨Bytes.ofString text, number.toNat⟩) ∧
      (-2 ^ 63 ≤ number → number < 0 → Chunk.decode body = .error (.invalidOffset number)) ∧
      (number < -2 ^ 63 ∨ 2 ^ 63 - 1 < number →
        ∃ fault, Chunk.decode body = .error (.decode fault))) ∧
    (∀ body chunk, Chunk.decode body = .ok chunk →
      Utf8.IsText chunk.data ∧ chunk.offset ≤ 2 ^ 63 - 1 ∧
      ∃ text, Renders text chunk.offset body ∧ chunk.data = Bytes.ofString text) ∧
    (∀ space value tail, IsSpaces space → IsValue value → ¬ IsSpaces tail →
      ∀ chunk, Chunk.decode (space ++ (value ++ tail)) ≠ .ok chunk) ∧
    ∀ before space properties tail, IsSpaces before → IsSpaces space → AreMembers properties →
      ¬ OccursOnce "data" properties ∨ ¬ OccursOnce "offset" properties →
      ∀ chunk, Chunk.decode (before ++ (objectOctets space properties ++ tail)) ≠ .ok chunk := by
  refine ⟨fun _ _ _ renders => renders.decode, fun body chunk decode_eq => ?_,
    fun _ _ _ spaces isValue more => decode_ne_ok_of_tail spaces isValue more,
    fun _ _ _ _ before_spaces spaces members amiss chunk decode_eq => ?_⟩
  · obtain ⟨text, number, document_eq, natural, rfl⟩ := exists_of_decode decode_eq
    obtain ⟨renders, signed⟩ := exists_renders document_eq
    have offset_eq : (number.toNat : Int) = number := Int.toNat_of_nonneg natural
    unfold IsSigned at signed
    refine ⟨⟨text.toList, rfl⟩, ?_, text, ?_, rfl⟩
    · show number.toNat ≤ 2 ^ 63 - 1
      omega
    · show Renders text number.toNat body
      rwa [offset_eq]
  · obtain ⟨data, offset⟩ := occursOnce_of_decode before_spaces spaces members decode_eq
    exact amiss.elim (fun missing => missing data) (fun missing => missing offset)

/-- A body with a further member, whose value holds half a pair of surrogates, and with escapes in a
key and in the data. -/
theorem decode_renders_escaped :
    Chunk.decode (Bytes.ofString
      " \x7b\"offset\" : 7,\"x\":[\"\\ud800\"], \"d\\u0061ta\":\"\\t\\uD83d\\ude00\"\x7d\n") =
        .ok ⟨Bytes.ofString "\t😀", 7⟩ := by
  have nothing : IsSpaces [] := List.forall_mem_nil _
  have space : IsSpaces [0x20] := List.forall_mem_singleton.mpr rfl
  have half : IsLiteral (Bytes.ofString "\\ud800") := isLiteral_of_skip (by decide +kernel)
  have face : Literal (Bytes.ofString "\\t\\uD83d\\ude00") "\t😀".toList :=
    literal_of_read (by decide +kernel) (by decide +kernel)
  have offset_key : Literal (Bytes.ofString "offset") "offset".toList :=
    literal_of_read (by decide +kernel) (by decide +kernel)
  have other_key : Literal (Bytes.ofString "x") "x".toList :=
    literal_of_read (by decide +kernel) (by decide +kernel)
  have data_key : Literal (Bytes.ofString "d\\u0061ta") "data".toList :=
    literal_of_read (by decide +kernel) (by decide +kernel)
  have seven : Bytes.ofString "7" = Bytes.ofChars (intText 7) := by decide +kernel
  let halves : Element := ⟨[], quoted (Bytes.ofString "\\ud800"), [], nothing, nothing⟩
  let offset : Property :=
    ⟨[], Bytes.ofString "offset", [0x20],
      ⟨[0x20], Bytes.ofString "7", [], space, nothing⟩, nothing, space⟩
  let other : Property :=
    ⟨[], Bytes.ofString "x", [], ⟨[], listOctets [] [halves], [], nothing, nothing⟩, nothing,
      nothing⟩
  let data : Property :=
    ⟨[0x20], Bytes.ofString "d\\u0061ta", [],
      ⟨[], quoted (Bytes.ofString "\\t\\uD83d\\ude00"), [], nothing, nothing⟩, space, nothing⟩
  have offset_named : IsNamed "offset" offset := offset_key
  have other_named : IsNamed "x" other := other_key
  have data_named : IsNamed "data" data := data_key
  have keys : ∀ property ∈ [offset, other, data],
      ∃ key : String, Literal property.key key.toList := by
    simp only [List.forall_mem_cons, List.not_mem_nil, false_implies, implies_true, and_true]
    exact ⟨⟨_, offset_named⟩, ⟨_, other_named⟩, ⟨_, data_named⟩⟩
  have values : ∀ property ∈ [offset, other, data], IsValue property.value.text := by
    simp only [List.forall_mem_cons, List.not_mem_nil, false_implies, implies_true, and_true]
    exact ⟨.number (seven ▸ Number.isNumber_intText 7 : IsNumber (Bytes.ofString "7")),
      .list nothing (List.forall_mem_singleton.mpr (.text half)), .text face.isLiteral⟩
  have data_gives : Gives "data" SpellsText [offset, other, data] (some "\t😀") := by
    rw [gives_cons_of_not_isNamed (offset_named.not_of_ne (by decide)),
      gives_cons_of_not_isNamed (other_named.not_of_ne (by decide)),
      gives_cons_of_isNamed data_named]
    exact ⟨_, ⟨_, rfl, face⟩, rfl, List.forall_mem_nil _⟩
  have offset_gives : Gives "offset" SpellsInteger [offset, other, data] (some 7) := by
    rw [gives_cons_of_isNamed offset_named]
    exact ⟨7, seven, rfl, List.forall_mem_cons.mpr ⟨other_named.not_of_ne (by decide),
      List.forall_mem_singleton.mpr (data_named.not_of_ne (by decide))⟩⟩
  have renders :
      Renders "\t😀" 7 ([0x20] ++ (objectOctets [] [offset, other, data] ++ [0x0A])) :=
    .object space nothing (List.forall_mem_singleton.mpr rfl) keys values data_gives offset_gives
  exact (decode_renders.1 _ _ _ renders).1 (by decide) (by decide)

end RemoteTail.Chunk

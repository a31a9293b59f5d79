import RemoteTail.Proofs.Json.Documents
import RemoteTail.Proofs.Json.Indentation
import RemoteTail.Proofs.Output.EntryRecord
import RemoteTail.Proofs.Text.Repair
import RemoteTail.Settings

/-!
# Settings files

A file describes settings if it is the UTF-8 text of an object in which every
field that it knows occurs at most once, with a value of its kind (`Describes`).
Such a file gives the settings that it describes, any other object gives the
defaults, and settings are had back from the file that is written of them
(`ofFile_describes`).  Whether they are written in the compact or in the indented
form makes no difference (`decode_indentedJson`).
-/

namespace RemoteTail.Settings

open Json

/-! ## Slots -/

/-- The slot of the field `endpoint`. -/
def endpointSlot : Slot Draft where
  Value := String
  name := "endpoint"
  get := Draft.endpoint
  set := fun draft value => { draft with endpoint := some value }
  read := readText
  Spells := SpellsText
  reads := reads_text
  get_set := fun _ _ => rfl

/-- The slot of the field `headers`. -/
def headersSlot : Slot Draft where
  Value := TextMap
  name := "headers"
  get := Draft.headers
  set := fun draft value => { draft with headers := some value }
  read := readTextMap
  Spells := SpellsTextMap
  reads := reads_textMap
  get_set := fun _ _ => rfl

/-- The slot of the field `chunk_size`. -/
def chunkSizeSlot : Slot Draft where
  Value := Nat
  name := "chunk_size"
  get := Draft.chunkSize
  set := fun draft value => { draft with chunkSize := some value }
  read := readWord
  Spells := SpellsWord
  reads := reads_word
  get_set := fun _ _ => rfl

/-- The slot of the field `poll_interval_ms`. -/
def pollIntervalSlot : Slot Draft where
  Value := Nat
  name := "poll_interval_ms"
  get := Draft.pollInterval
  set := fun draft value => { draft with pollInterval := some value }
  read := readWord
  Spells := SpellsWord
  reads := reads_word
  get_set := fun _ _ => rfl

/-- The slots of a settings file. -/
def layout : Layout record where
  slots := [endpointSlot, headersSlot, chunkSizeSlot, pollIntervalSlot]
  fields_eq := rfl
  names := by decide
  blank := by
    simp only [List.forall_mem_cons, List.not_mem_nil, false_implies, implies_true, and_true]
    exact ⟨rfl, rfl, rfl, rfl⟩
  apart := by
    simp only [List.forall_mem_cons, List.not_mem_nil, false_implies, implies_true, and_true]
    refine ⟨⟨?_, ?_, ?_, ?_⟩, ⟨?_, ?_, ?_, ?_⟩, ⟨?_, ?_, ?_, ?_⟩, ?_, ?_, ?_, ?_⟩
    all_goals first | exact fun _ _ _ => rfl | exact fun same => absurd rfl same
  ext := by
    simp only [List.forall_mem_cons, List.not_mem_nil, false_implies, implies_true, and_true]
    rintro ⟨_, _, _, _⟩ ⟨_, _, _, _⟩ ⟨rfl, rfl, rfl, rfl⟩
    rfl

/-! ## Files that describe settings -/

/-- A file describes a draft: it is the text of an object whose members give the fields of the
draft, each at most once, among others of any kind. -/
structure Describes (draft : Draft) (file : Bytes) : Prop where
  isText : Utf8.IsText file
  object : ∃ before space properties after,
    IsSpaces before ∧ IsSpaces space ∧ IsSpaces after ∧
    file = before ++ (objectOctets space properties ++ after) ∧
    (∀ property ∈ properties, ∃ key : String, Literal property.key key.toList) ∧
    (∀ property ∈ properties, IsValue property.value.text) ∧
    Gives "endpoint" SpellsText properties draft.endpoint ∧
    Gives "headers" SpellsTextMap properties draft.headers ∧
    Gives "chunk_size" SpellsWord properties draft.chunkSize ∧
    Gives "poll_interval_ms" SpellsWord properties draft.pollInterval

theorem describes_iff {properties : List Property} {draft : Draft} :
    layout.Describes properties draft ↔
      (∀ property ∈ properties, ∃ key : String, Literal property.key key.toList) ∧
        Gives "endpoint" SpellsText properties draft.endpoint ∧
        Gives "headers" SpellsTextMap properties draft.headers ∧
        Gives "chunk_size" SpellsWord properties draft.chunkSize ∧
        Gives "poll_interval_ms" SpellsWord properties draft.pollInterval := by
  constructor
  · rintro ⟨keys, gives⟩
    simp only [layout, List.forall_mem_cons, List.not_mem_nil, false_implies, implies_true,
      and_true] at gives
    exact ⟨keys, gives⟩
  · rintro ⟨keys, gives⟩
    refine ⟨keys, ?_⟩
    simp only [layout, List.forall_mem_cons, List.not_mem_nil, false_implies, implies_true,
      and_true]
    exact gives

theorem decode_eq_ok_iff {file : Bytes} {settings : Settings} :
    decode file = .ok settings ↔ Utf8.IsText file ∧ record.readDocument file = .ok settings := by
  rw [decode]
  cases decoded : Utf8.decode? file with
  | none =>
      simp only [Option.isNone_none, if_true, reduceCtorEq, false_iff, not_and]
      rintro ⟨text, rfl⟩
      rw [Utf8.decode?_ofChars] at decoded
      cases decoded
  | some text =>
      have isText : Utf8.IsText file := ⟨text, Utf8.decode?_eq_some_iff.mp decoded⟩
      simp only [Option.isNone_some, Bool.false_eq_true, if_false, isText, true_and]

theorem ofFile_of_decode {file : Bytes} {settings : Settings}
    (decode_eq : decode file = .ok settings) : ofFile file = settings := by
  rw [ofFile, decode_eq]
  rfl

/-- A file that describes a draft gives its fields, and the default of every field that it lacks. -/
theorem Describes.decode {draft : Draft} {file : Bytes} (describes : Describes draft file) :
    decode file = .ok draft.fill := by
  obtain ⟨isText, before, space, properties, after, before_spaces, spaces, after_spaces, rfl, keys,
    values, gives⟩ := describes
  have members : AreMembers properties :=
    ⟨fun property member => (keys property member).choose_spec.isLiteral, values⟩
  refine decode_eq_ok_iff.mpr ⟨isText, ?_⟩
  exact (layout.readDocument_object_iff before_spaces spaces members).mpr
    ⟨⟨draft, describes_iff.mpr ⟨keys, gives⟩, rfl⟩, after_spaces⟩

/-- The first octet of a list that is not white space. -/
theorem head?_dropWhile_list {before space tail : Bytes} {elements : List Element}
    (before_spaces : IsSpaces before) :
    ((before ++ (listOctets space elements ++ tail)).dropWhile isSpace).head? = some 0x5B := by
  rw [List.dropWhile_append_of_pos before_spaces]
  rfl

/-- Unless it is a list, a file that is decoded describes what it is decoded for. -/
theorem exists_describes {file : Bytes} {settings : Settings}
    (decode_eq : Settings.decode file = .ok settings)
    (no_list : (file.dropWhile isSpace).head? ≠ some 0x5B) :
    ∃ draft, Describes draft file ∧ settings = draft.fill := by
  obtain ⟨isText, document_eq⟩ := decode_eq_ok_iff.mp decode_eq
  obtain ⟨before, text, after, before_spaces, after_spaces, rfl, whole⟩ :=
    layout.exists_of_readDocument document_eq
  rcases whole with ⟨space, properties, draft, spaces, members, rfl, describes, finish_eq⟩ |
    ⟨space, elements, _, _, _, rfl, _⟩
  · obtain ⟨keys, gives⟩ := describes_iff.mp describes
    exact ⟨draft, ⟨isText, before, space, properties, after, before_spaces, spaces, after_spaces,
      rfl, keys, members.values, gives⟩, (Option.some.inj finish_eq).symm⟩
  · exact absurd (head?_dropWhile_list before_spaces) no_list

/-! ## Files that are written of settings -/

/-- The numbers of settings are words of 64 bits. -/
structure InWords (settings : Settings) : Prop where
  chunkSize_lt : settings.chunkSize < 2 ^ 64
  pollInterval_lt : settings.pollInterval < 2 ^ 64

variable {settings : Settings}

/-- The members of settings as they are written. -/
def members (settings : Settings) (inWords : settings.InWords) : List Json.Member :=
  [{ key := "endpoint"
     text := Json.stringText settings.endpoint.toList
     parts := [Json.textToken settings.endpoint.toList]
     spells := Json.spellsTokens_text _ },
   { key := "headers"
     text := Json.objectText ((TextMap.members settings.headers.entries).map Json.Member.entry)
     parts := Json.objectTokens (TextMap.members settings.headers.entries)
     spells := Json.spellsTokens_object _ },
   { key := "chunk_size"
     text := Decimal.digits settings.chunkSize
     parts := [.number (.ok (.int settings.chunkSize)) (.ok ())]
     spells := Json.spellsTokens_digits inWords.chunkSize_lt },
   { key := "poll_interval_ms"
     text := Decimal.digits settings.pollInterval
     parts := [.number (.ok (.int settings.pollInterval)) (.ok ())]
     spells := Json.spellsTokens_digits inWords.pollInterval_lt }]

theorem json_eq (settings : Settings) (inWords : settings.InWords) :
    settings.json = Json.objectText ((settings.members inWords).map Json.Member.entry) := by
  simp only [json, members, TextMap.members, List.map_cons, List.map_nil, List.map_map]
  rfl

/-- Each member of settings sets its own field. -/
theorem readsMembers (inWords : settings.InWords) :
    Json.ReadsMembers record.readMember record.start (settings.members inWords)
      ⟨some settings.endpoint, some settings.headers, some settings.chunkSize,
        some settings.pollInterval⟩ := by
  refine @Json.ReadsMembers.cons _ _ _ ⟨some settings.endpoint, none, none, none⟩ _ _ _ ?_ ?_
  · intro rest
    apply Json.RecordReader.readMember_of_field rfl rfl
    simp only [Json.readText, Json.textToken, List.singleton_append, Except.map,
      String.ofList_toList]
    rfl
  refine @Json.ReadsMembers.cons _ _ _ ⟨some settings.endpoint, some settings.headers, none, none⟩
    _ _ _ ?_ ?_
  · intro rest
    apply Json.RecordReader.readMember_of_field rfl rfl
    simp only [TextMap.readTextMap_written, Except.map]
  refine @Json.ReadsMembers.cons _ _ _ ⟨some settings.endpoint, some settings.headers,
    some settings.chunkSize, none⟩ _ _ _ ?_ ?_
  · intro rest
    apply Json.RecordReader.readMember_of_field rfl rfl
    simp only [List.singleton_append, JournalEntry.readWord_written inWords.chunkSize_lt,
      Except.map]
  refine .cons ?_ .nil
  intro rest
  apply Json.RecordReader.readMember_of_field rfl rfl
  simp only [List.singleton_append, JournalEntry.readWord_written inWords.pollInterval_lt,
    Except.map]

/-- Settings are had back from their JSON text. -/
theorem decode_json (inWords : settings.InWords) :
    decode (Bytes.ofChars settings.json) = .ok settings := by
  have document_eq := Json.RecordReader.readDocument_written (readsMembers inWords) rfl
    (List.forall_mem_nil _)
  rw [List.append_nil, ← settings.json_eq inWords] at document_eq
  exact decode_eq_ok_iff.mpr ⟨⟨settings.json, rfl⟩, document_eq⟩

/-- The indented form of settings has the tokens of the compact one. -/
theorem tokens_indentedJson (inWords : settings.InWords) :
    Json.tokens (Bytes.ofChars settings.indentedJson) =
      Json.tokens (Bytes.ofChars settings.json) := by
  let headers := TextMap.members settings.headers.entries
  let indented : List Json.Member :=
    (settings.members inWords).set 1
      { key := "headers"
        text := Json.objectLines 1 (headers.map Json.Member.entry)
        parts := Json.objectTokens headers
        spells := Json.spellsTokens_objectLines 1 headers }
  have indented_eq : settings.indentedJson = Json.objectLines 0 (indented.map Json.Member.entry) := by
    simp only [indentedJson, indented, headers, members, TextMap.members, List.set_cons_succ,
      List.set_cons_zero, List.map_cons, List.map_nil, List.map_map]
    rfl
  have parts_eq : Json.objectTokens indented = Json.objectTokens (settings.members inWords) := rfl
  have ends : Json.EndsNumber [] := Json.Value.endsNumber_of_spaces (List.forall_mem_nil _)
  have indented_spells := Json.spellsTokens_objectLines 0 indented [] ends
  have compact_spells := Json.spellsTokens_object (settings.members inWords) [] ends
  rw [List.append_nil, ← indented_eq] at indented_spells
  rw [List.append_nil, ← settings.json_eq inWords] at compact_spells
  rw [indented_spells, compact_spells, parts_eq]

/-- Settings are had back from their indented form. -/
theorem decode_indentedJson (inWords : settings.InWords) :
    decode (Bytes.ofChars settings.indentedJson) = .ok settings := by
  have document_eq := (decode_eq_ok_iff.mp (decode_json inWords)).2
  rw [Json.RecordReader.readDocument, ← tokens_indentedJson inWords] at document_eq
  exact decode_eq_ok_iff.mpr ⟨⟨settings.indentedJson, rfl⟩, document_eq⟩

example :
    let settings : Settings := { headers := (∅ : TextMap).insert "Authorization" "token=abc" }
    String.ofList settings.indentedJson =
      "\n".intercalate
        ["\x7b", "  \"endpoint\": \"http://127.0.0.1:5051/files/read\",", "  \"headers\": \x7b",
          "    \"Authorization\": \"token=abc\"", "  \x7d,", "  \"chunk_size\": 65536,",
          "  \"poll_interval_ms\": 500", "\x7d"] := by
  decide +kernel

/-- Settings are had back from the file that is written of them.  A file that describes a draft
gives each field of the draft, or its default.  Any other file gives the defaults alone, whatever
it begins with, unless it begins with the bracket of a list. -/
theorem ofFile_describes :
    (∀ settings : Settings, settings.InWords →
      ofFile (Bytes.ofChars settings.json) = settings) ∧
    (∀ draft file, Describes draft file →
      ofFile file =
        { endpoint := draft.endpoint.getD defaultEndpoint
          headers := draft.headers.getD ∅
          chunkSize := draft.chunkSize.getD defaultChunkSize
          pollInterval := draft.pollInterval.getD defaultPollInterval }) ∧
    ∀ file : Bytes, (file.dropWhile isSpace).head? ≠ some 0x5B →
      (∀ draft, ¬ Describes draft file) → ofFile file = defaults := by
  refine ⟨fun settings inWords => ofFile_of_decode (decode_json inWords),
    fun draft file describes => ofFile_of_decode describes.decode,
    fun file no_list undescribed => ?_⟩
  rcases decode_eq : decode file with fault | settings
  · rw [ofFile, decode_eq]
    rfl
  · obtain ⟨draft, describes, _⟩ := exists_describes decode_eq no_list
    exact absurd describes (undescribed draft)

/-- Settings with a quotation mark, a control and the greatest number; a file with half a pair of
surrogates in a field that it does not know; and a file with a field that comes twice. -/
theorem ofFile_describes_repeated :
    let settings : Settings :=
      { endpoint := "\"\\\x00", headers := (∅ : TextMap).insert "😀" "\n", chunkSize := 2 ^ 64 - 1 }
    ofFile (Bytes.ofChars settings.json) = settings ∧
      ofFile (Bytes.ofString " \x7b\"z\":\"\\ud800\",\"chunk_size\":7\x7d") =
        { chunkSize := 7 } ∧
      ofFile (Bytes.ofString "\x7b\"chunk_size\":7,\"chunk_size\":7\x7d") = defaults := by
  intro settings
  refine ⟨ofFile_describes.1 settings ⟨by decide, by decide⟩, ?_, ?_⟩
  · have nothing : IsSpaces [] := List.forall_mem_nil _
    have half : IsLiteral (Bytes.ofString "\\ud800") := isLiteral_of_skip (by decide +kernel)
    have other_key : Literal (Bytes.ofString "z") "z".toList :=
      literal_of_read (by decide +kernel) (by decide +kernel)
    have chunkSize_key : Literal (Bytes.ofString "chunk_size") "chunk_size".toList :=
      literal_of_read (by decide +kernel) (by decide +kernel)
    have seven : Bytes.ofString "7" = Bytes.ofChars (Decimal.digits 7) := by decide +kernel
    let other : Property :=
      ⟨[], Bytes.ofString "z", [], ⟨[], quoted (Bytes.ofString "\\ud800"), [], nothing, nothing⟩,
        nothing, nothing⟩
    let chunkSize : Property :=
      ⟨[], Bytes.ofString "chunk_size", [], ⟨[], Bytes.ofString "7", [], nothing, nothing⟩, nothing,
        nothing⟩
    have other_named : IsNamed "z" other := other_key
    have chunkSize_named : IsNamed "chunk_size" chunkSize := chunkSize_key
    have keys : ∀ property ∈ [other, chunkSize],
        ∃ key : String, Literal property.key key.toList :=
      List.forall_mem_cons.mpr ⟨⟨_, other_named⟩,
        List.forall_mem_singleton.mpr ⟨_, chunkSize_named⟩⟩
    have values : ∀ property ∈ [other, chunkSize], IsValue property.value.text :=
      List.forall_mem_cons.mpr ⟨.text half, List.forall_mem_singleton.mpr
        (.number (seven ▸ Number.isNumber_intText 7 : IsNumber (Bytes.ofString "7")))⟩
    have absent (name : String) (first : name ≠ "z") (second : name ≠ "chunk_size") :
        ∀ property ∈ [other, chunkSize], ¬ IsNamed name property :=
      List.forall_mem_cons.mpr ⟨other_named.not_of_ne first,
        List.forall_mem_singleton.mpr (chunkSize_named.not_of_ne second)⟩
    have chunkSize_gives : Gives "chunk_size" SpellsWord [other, chunkSize] (some 7) := by
      rw [gives_cons_of_not_isNamed (other_named.not_of_ne (by decide)),
        gives_cons_of_isNamed chunkSize_named]
      exact ⟨7, ⟨seven, by decide⟩, rfl, List.forall_mem_nil _⟩
    exact ofFile_describes.2.1 ⟨none, none, some 7, none⟩ _ ⟨⟨_, rfl⟩, [0x20], [],
      [other, chunkSize], [], List.forall_mem_singleton.mpr rfl, nothing, nothing, rfl, keys,
      values, absent _ (by decide) (by decide), absent _ (by decide) (by decide), chunkSize_gives,
      absent _ (by decide) (by decide)⟩
  · refine ofFile_describes.2.2 _ (by decide) fun draft describes => ?_
    have refused : decode (Bytes.ofString "\x7b\"chunk_size\":7,\"chunk_size\":7\x7d") =
        .error .mismatch := by
      decide +kernel
    cases refused.symm.trans describes.decode

end RemoteTail.Settings

import RemoteTail.Output.Format
import RemoteTail.Proofs.Json.Controls
import RemoteTail.Proofs.Json.Tokens
import RemoteTail.Proofs.Line.Laid

/-!
# Records of journal entries

A block of JSON output holds the record of one journal entry, on a line of its own,
and a server-sent event holds the same record.  Whoever decodes the block has the
entry back, whatever its texts are (`JournalEntry.decode_json`); and whoever has
the blocks of many entries cuts them at their terminators
(`split_flatMap_entryBlock`).
-/

namespace RemoteTail

/-! ## Text maps -/

namespace TextMap

/-- An entry with a greater key than all others comes last. -/
theorem insertEntry_of_forall_lt {key value : String} {entries : List (String × String)}
    (greatest : ∀ entry ∈ entries, entry.1 < key) :
    insertEntry key value entries = entries ++ [(key, value)] := by
  induction entries with
  | nil => rfl
  | cons entry entries ih =>
      obtain ⟨less, others⟩ := List.forall_mem_cons.mp greatest
      obtain ⟨other, kept⟩ := entry
      have no_less : ¬ key < other := fun before => String.lt_irrefl key (String.lt_trans before less)
      have apart : key ≠ other := by
        rintro rfl
        exact String.lt_irrefl key less
      rw [insertEntry, if_neg no_less, if_neg apart, ih others, List.cons_append]

/-- The members of a map as they are written. -/
def members (entries : List (String × String)) : List Json.Member :=
  entries.map fun entry =>
    { key := entry.1
      text := Json.stringText entry.2.toList
      parts := [Json.textToken entry.2.toList]
      spells := Json.spellsTokens_text _ }

/-- The members of a map are set one after another, each behind those that have been set. -/
theorem readsMembers {before : TextMap} {entries : List (String × String)} {whole : TextMap}
    (parts : before.entries ++ entries = whole.entries) :
    Json.ReadsMembers
      (fun map key text =>
        (Json.afterColon Json.readText text).map fun (value, rest) => (map.insert key value, rest))
      before (members entries) whole := by
  induction entries generalizing before with
  | nil =>
      obtain rfl : before = whole := by
        cases before
        cases whole
        simpa using parts
      exact .nil
  | cons entry entries ih =>
      obtain ⟨key, value⟩ := entry
      have sorted := whole.sorted
      rw [← parts, List.pairwise_append] at sorted
      have set : (before.insert key value).entries = before.entries ++ [(key, value)] :=
        insertEntry_of_forall_lt fun entry member =>
          sorted.2.2 entry member _ List.mem_cons_self
      apply Json.ReadsMembers.cons
      · intro rest
        simp only [Json.textToken, List.singleton_append, Json.afterColon, Json.readText, Except.map,
          String.ofList_toList]
        rfl
      · apply ih
        rw [set, List.append_assoc, List.singleton_append]
        exact parts

/-- A map is read from the tokens of its members. -/
theorem readTextMap_written (map : TextMap) (rest : List Json.Token) :
    Json.readTextMap (Json.objectTokens (members map.entries) ++ rest) = .ok (map, rest) := by
  have reads := @readsMembers ∅ map.entries map (List.nil_append _)
  rw [Json.objectTokens, List.cons_append, List.append_assoc, List.singleton_append,
    Json.readTextMap]
  apply Json.readMembers_written reads
  have few := Json.Member.length_le true (members map.entries)
  rw [List.length_append]
  omega

end TextMap

namespace JournalEntry

/-- The timestamps of an entry are words of 64 bits. -/
structure InWords (entry : JournalEntry) : Prop where
  monotonic_lt : entry.monotonicTimestamp < 2 ^ 64
  realtime_lt : entry.realtimeTimestamp < 2 ^ 64

variable {entry : JournalEntry}

/-- The members of an entry as they are written. -/
def members (entry : JournalEntry) (inWords : entry.InWords) : List Json.Member :=
  [{ key := "fields"
     text := Json.objectText ((TextMap.members entry.fields.entries).map Json.Member.entry)
     parts := Json.objectTokens (TextMap.members entry.fields.entries)
     spells := Json.spellsTokens_object _ },
   { key := "cursor"
     text := Json.stringText entry.cursor.toList
     parts := [Json.textToken entry.cursor.toList]
     spells := Json.spellsTokens_text _ },
   { key := "monotonic_timestamp"
     text := Decimal.digits entry.monotonicTimestamp
     parts := [.number (.ok (.int entry.monotonicTimestamp)) (.ok ())]
     spells := Json.spellsTokens_digits inWords.monotonic_lt },
   { key := "realtime_timestamp"
     text := Decimal.digits entry.realtimeTimestamp
     parts := [.number (.ok (.int entry.realtimeTimestamp)) (.ok ())]
     spells := Json.spellsTokens_digits inWords.realtime_lt }]

theorem json_eq (entry : JournalEntry) (inWords : entry.InWords) :
    entry.json = Json.objectText ((entry.members inWords).map Json.Member.entry) := by
  simp only [json, members, TextMap.members, List.map_cons, List.map_nil, List.map_map]
  rfl

theorem readWord_written {value : Nat} (fits : value < 2 ^ 64) (rest : List Json.Token) :
    Json.readWord (.number (.ok (.int value)) (.ok ()) :: rest) = .ok (value, rest) := by
  have within : ((0 : Int) ≤ value && (value : Int) ≤ 0xFFFFFFFFFFFFFFFF) = true := by
    rw [Bool.and_eq_true, decide_eq_true_eq, decide_eq_true_eq]
    omega
  rw [Json.readWord, Json.readInt, if_pos within]
  rfl

/-- Each member of an entry sets its own field. -/
theorem readsMembers (inWords : entry.InWords) :
    Json.ReadsMembers record.readMember record.start (entry.members inWords)
      ⟨some entry.fields, some entry.cursor, some entry.monotonicTimestamp,
        some entry.realtimeTimestamp⟩ := by
  refine @Json.ReadsMembers.cons _ _ _ ⟨some entry.fields, none, none, none⟩ _ _ _ ?_ ?_
  · intro rest
    apply Json.RecordReader.readMember_of_field rfl rfl
    simp only [TextMap.readTextMap_written, Except.map]
    rfl
  refine @Json.ReadsMembers.cons _ _ _ ⟨some entry.fields, some entry.cursor, none, none⟩ _ _ _
    ?_ ?_
  · intro rest
    apply Json.RecordReader.readMember_of_field rfl rfl
    simp only [Json.readText, Json.textToken, List.singleton_append, Except.map,
      String.ofList_toList]
  refine @Json.ReadsMembers.cons _ _ _ ⟨some entry.fields, some entry.cursor,
    some entry.monotonicTimestamp, none⟩ _ _ _ ?_ ?_
  · intro rest
    apply Json.RecordReader.readMember_of_field rfl rfl
    simp only [List.singleton_append, readWord_written inWords.monotonic_lt, Except.map]
  refine .cons ?_ .nil
  intro rest
  apply Json.RecordReader.readMember_of_field rfl rfl
  simp only [List.singleton_append, readWord_written inWords.realtime_lt, Except.map]

/-- An entry is had back from its JSON text, whatever white space comes after it. -/
theorem decode_json (inWords : entry.InWords) {space : Bytes}
    (spaces : ∀ octet ∈ space, Json.isSpace octet = true) :
    decode (Bytes.ofChars entry.json ++ space) = .ok entry := by
  rw [decode, entry.json_eq inWords]
  exact Json.RecordReader.readDocument_written (readsMembers inWords) rfl spaces

/-- The JSON text of an entry holds no controls, whatever its texts are. -/
theorem freeOfControls_json (entry : JournalEntry) : Json.FreeOfControls entry.json := by
  apply Json.freeOfControls_objectText
  simp only [List.forall_mem_cons]
  refine ⟨?_, Json.freeOfControls_stringText _, Json.freeOfControls_digits _,
    Json.freeOfControls_digits _, List.forall_mem_nil _⟩
  apply Json.freeOfControls_objectText
  intro member among
  obtain ⟨field, _, rfl⟩ := List.mem_map.mp among
  exact Json.freeOfControls_stringText _

/-! ## Blocks of entries -/

/-- The blocks of entries, one after another, are cut into the JSON texts of the entries. -/
theorem split_flatMap_entryBlock (entries : List JournalEntry) :
    split (entries.flatMap OutputFormat.json.entryBlock) 0 .forward =
      ⟨layLines 0 (entries.map fun entry => Bytes.ofChars entry.json), 0⟩ := by
  have joined : entries.flatMap OutputFormat.json.entryBlock =
      join (entries.map fun entry => Bytes.ofChars entry.json) := by
    rw [join, List.flatMap_map]
    rfl
  have whole : ∀ message ∈ entries.map (fun entry => Bytes.ofChars entry.json),
      newline ∉ message := by
    intro message member
    obtain ⟨entry, _, rfl⟩ := List.mem_map.mp member
    exact entry.freeOfControls_json.newline_not_mem
  rw [split, ScanOrder.arrange, joined, cut_join whole]
  rfl

/-- Entries survive their blocks.  An entry is decoded from its JSON block, whatever its texts are and
whatever words its timestamps are.  The block of a server-sent event carries the same JSON text, which
has no octet that ends a line.  So the JSON blocks of any entries, one after another, are cut into one
line for each entry, and the lines are decoded to these entries in their order. -/
theorem survives_blocks :
    (∀ entry : JournalEntry, entry.InWords →
      let block := OutputFormat.json.entryBlock entry
      OutputFormat.json.formatter.entry entry = .ok block ∧
        decode block = .ok entry ∧
        OutputFormat.sse.formatter.entry entry =
          .ok (Bytes.ofString "data: " ++ block.dropLast ++ [newline, newline]) ∧
        block = block.dropLast ++ [newline] ∧
        newline ∉ block.dropLast ∧ 0x0D ∉ block.dropLast) ∧
      ∀ entries : List JournalEntry, (∀ entry ∈ entries, entry.InWords) →
        let pieces := split (entries.flatMap OutputFormat.json.entryBlock) 0 .forward
        pieces.withheld = 0 ∧ (∀ line ∈ pieces.lines, line.terminated = true) ∧
          pieces.lines.map (fun line => decode line.message) = entries.map .ok := by
  constructor
  · intro entry inWords block
    have dropped : block.dropLast = Bytes.ofChars entry.json := List.dropLast_concat
    have free := entry.freeOfControls_json
    rw [dropped]
    refine ⟨rfl, ?_, rfl, rfl, free.newline_not_mem, ?_⟩
    · exact decode_json inWords (List.forall_mem_singleton.mpr rfl)
    · exact fun member => absurd (free.le_of_mem_ofChars _ member) (by decide)
  · intro entries inWords
    rw [split_flatMap_entryBlock]
    refine ⟨rfl, fun line member => terminated_of_mem_layLines member, ?_⟩
    change (layLines 0 _).map (decode ∘ Line.message) = _
    rw [← List.map_map, map_message_layLines, List.map_map]
    apply List.map_congr_left
    intro entry member
    have decoded := decode_json (inWords entry member) (List.forall_mem_nil _)
    rw [List.append_nil] at decoded
    exact decoded

/-- Two entries with an empty key, a quotation mark, a reverse solidus, controls, a line separator, a
character of four octets and the greatest timestamp. -/
theorem survives_blocks_of_controls :
    let entry : JournalEntry :=
      { fields := (∅ : TextMap).insert "" "\"\\\n\r\u2028" |>.insert "\x00" "😀"
        cursor := "s=1;i=2"
        monotonicTimestamp := 0xFFFFFFFFFFFFFFFF
        realtimeTimestamp := 0 }
    decode (OutputFormat.json.entryBlock entry) = .ok entry ∧
      newline ∉ (OutputFormat.json.entryBlock entry).dropLast ∧
      (split ([entry, entry].flatMap OutputFormat.json.entryBlock) 0 .forward).lines.map
        (fun line => decode line.message) = [.ok entry, .ok entry] := by
  intro entry
  have inWords : entry.InWords := ⟨by decide, by decide⟩
  obtain ⟨_, decoded, _, _, no_newline, _⟩ := survives_blocks.1 entry inWords
  obtain ⟨_, _, lines_eq⟩ := survives_blocks.2 [entry, entry] (by simp [inWords])
  exact ⟨decoded, no_newline, lines_eq⟩

end JournalEntry

end RemoteTail

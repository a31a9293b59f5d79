import RemoteTail.Proofs.Json.Controls
import RemoteTail.Proofs.Output.LineRecord
import RemoteTail.Proofs.Text.Repair

/-!
# Frames of line records

Whatever octets a line has, its JSON block is one line of text that holds an
object with the members of its record and no others (`exists_framed`).  Offset
and size are those of the line itself, whereas its message is shown repaired.

Lines of text are told apart by their blocks (`lineBlock_ne`).
-/

namespace RemoteTail.LineRecord

/-- The keys of the object that records a line: only a fragment is said to be partial. -/
def keys (line : Line) : List (List Char) :=
  ["message".toList, "offset".toList, "size".toList] ++
    if line.terminated then [] else ["partial".toList]

/-- The members of an object record a line: its offset, its size in octets, that it is partial if it
is a fragment, and the text to which its octets are repaired. -/
structure Records (members : List (List Char × Json.Value)) (line : Line) : Prop where
  keys_eq : members.map Prod.fst = keys line
  message : ∀ text,
    members.lookup "message".toList = some (.text text) ↔ Utf8.Repairs line.message text
  offset : (members.lookup "offset".toList).bind Json.Value.natural? = some line.offset
  size : (members.lookup "size".toList).bind Json.Value.natural? = some line.message.length
  isPartial : members.lookup "partial".toList =
    if line.terminated then none else some (.bool true)

theorem records_members (line : Line) : Records (members line) line where
  keys_eq := by
    unfold members keys
    cases line.terminated <;> rfl
  message := by
    intro text
    have found : (members line).lookup "message".toList =
        some (.text (Utf8.lossy line.message)) := rfl
    rw [found, Utf8.repairs_iff, Option.some.injEq, Json.Value.text.injEq, eq_comm]
  offset := Json.Value.natural?_digits line.offset
  size := Json.Value.natural?_digits line.size
  isPartial := by
    unfold members
    cases line.terminated <;> rfl

theorem Records.message_of_isText {members : List (List Char × Json.Value)} {line : Line}
    (records : Records members line) {text : List Char}
    (spelt : line.message = Bytes.ofChars text) :
    members.lookup "message".toList = some (.text text) := by
  rw [records.message, Utf8.repairs_iff, spelt, Utf8.lossy_ofChars]

theorem freeOfControls_json (line : Line) : Json.FreeOfControls line.json := by
  apply Json.freeOfControls_objectText
  simp only [List.cons_append, List.nil_append, List.forall_mem_cons]
  refine ⟨Json.freeOfControls_stringText _, Json.freeOfControls_digits _,
    Json.freeOfControls_digits _, ?_⟩
  cases line.terminated with
  | true => exact List.forall_mem_nil _
  | false =>
      refine List.forall_mem_singleton.mpr ?_
      have plain : "true".toList.all (fun c => 0x20 ≤ c.toNat) = true := by decide
      exact fun c member => of_decide_eq_true (List.all_eq_true.mp plain c member)

/-- Terminated lines of text have the same block only if they have the same message and offset. -/
theorem lineBlock_ne {format : OutputFormat} (structured : format ≠ .text) {line other : Line}
    (isText : Utf8.IsText line.message) (other_isText : Utf8.IsText other.message)
    (differ : line.message ≠ other.message ∨ line.offset ≠ other.offset) :
    format.lineBlock line ≠ format.lineBlock other := by
  intro same
  have found := ofBlock?_lineBlock structured line
  rw [same, ofBlock?_lineBlock structured other, Option.some.injEq] at found
  cases differ with
  | inl differ =>
      have texts : Utf8.lossy other.message = Utf8.lossy line.message :=
        congrArg LineRecord.message found
      rw [← isText.ofChars_lossy, ← other_isText.ofChars_lossy, texts] at differ
      exact differ rfl
  | inr differ => exact differ (congrArg LineRecord.offset found).symm

/-- Every line has a JSON block that is one line of text and holds its record, and an event whose
data it is.  Terminated lines of text that differ in message or offset have different blocks. -/
theorem exists_framed (line : Line) :
    ∃ (text : Bytes) (members : List (List Char × Json.Value)),
      OutputFormat.json.formatter.line line = .ok (text ++ [newline]) ∧
      OutputFormat.sse.formatter.line line =
        .ok (Bytes.ofString "data: " ++ text ++ [newline, newline]) ∧
      newline ∉ text ∧ 0x0D ∉ text ++ [newline] ∧ Utf8.IsText (text ++ [newline]) ∧
      Json.Value.ofText? (text ++ [newline]) = some (.object members) ∧ Records members line ∧
      (∀ message, line.message = Bytes.ofChars message →
        members.lookup "message".toList = some (.text message)) ∧
      ∀ other, line.terminated = true → other.terminated = true →
        Utf8.IsText line.message → Utf8.IsText other.message →
        line.message ≠ other.message ∨ line.offset ≠ other.offset →
        ∀ format ≠ OutputFormat.text,
          format.formatter.line line ≠ format.formatter.line other := by
  have free := freeOfControls_json line
  refine ⟨Bytes.ofChars line.json, members line, rfl, rfl, free.newline_not_mem, ?_, ?_, ?_,
    records_members line, fun _ => (records_members line).message_of_isText, ?_⟩
  · rw [List.mem_append, List.mem_singleton, not_or]
    exact ⟨fun member => absurd (free.le_of_mem_ofChars _ member) (by decide), by decide⟩
  · exact Utf8.IsText.append ⟨line.json, rfl⟩ ⟨['\n'], rfl⟩
  · exact (spells_json line).ofText? (List.forall_mem_singleton.mpr rfl)
  · intro other _ _ isText other_isText differ format structured same
    exact lineBlock_ne structured isText other_isText differ (Except.ok.inj same)

/-- A terminated line with a line feed, a quotation mark and a letter of two octets, and the same
line one octet further on. -/
theorem exists_framed_quotation : ∃ members,
    Records members ⟨Bytes.ofString "\né\"", 2, true⟩ ∧
      members.lookup "message".toList = some (.text "\né\"".toList) ∧
      OutputFormat.sse.formatter.line ⟨Bytes.ofString "\né\"", 2, true⟩ ≠
        OutputFormat.sse.formatter.line ⟨Bytes.ofString "\né\"", 3, true⟩ := by
  obtain ⟨_, members, _, _, _, _, _, _, records, isText, apart⟩ :=
    exists_framed ⟨Bytes.ofString "\né\"", 2, true⟩
  exact ⟨members, records, isText _ rfl,
    apart ⟨Bytes.ofString "\né\"", 3, true⟩ rfl rfl ⟨_, rfl⟩ ⟨_, rfl⟩ (.inr (by decide)) .sse
      (by decide)⟩

end RemoteTail.LineRecord

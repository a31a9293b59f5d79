import Mathlib.Data.List.Infix
import RemoteTail.Output.Format
import RemoteTail.Proofs.Json.Value
import RemoteTail.Proofs.Line.Texts

/-!
# Records of lines

A block of JSON output, or of server-sent events, holds the record of one line.
Whoever reads the block finds the line's offset and size, whether it is partial,
and its message (`LineRecord.ofBlock?_lineBlock`); if the line is text, its octets
can be had back from the record (`LineRecord.bytes_ofLine`).
-/

namespace RemoteTail

/-- What a record says of a line. -/
structure LineRecord where
  /-- The text of the line, terminator excluded. -/
  message : List Char
  /-- Position in the file of the first octet of the message. -/
  offset : Nat
  /-- Length of the message in octets. -/
  size : Nat
  /-- Whether the line goes on after the message. -/
  isPartial : Bool
deriving DecidableEq, Repr

namespace LineRecord

/-- The record that an object is, if it has the members of one.  It is partial only if it says
so. -/
def ofMembers? (members : List (List Char × Json.Value)) : Option LineRecord := do
  let message ← members.lookup "message".toList >>= Json.Value.text?
  let offset ← members.lookup "offset".toList >>= Json.Value.natural?
  let size ← members.lookup "size".toList >>= Json.Value.natural?
  let isPartial ← (members.lookup "partial".toList).elim (some false) Json.Value.bool?
  return ⟨message, offset, size, isPartial⟩

/-- The JSON text in a block: all of it, or the data of the event that it is. -/
def payload? : OutputFormat → Bytes → Option Bytes
  | .text, _ => none
  | .json, block => some block
  | .sse, block => (Bytes.ofString "data: ").isPrefixOf? block >>= [newline, newline].isSuffixOf?

/-- The record in a block, if the block holds a JSON object that is one. -/
def ofBlock? (format : OutputFormat) (block : Bytes) : Option LineRecord :=
  match payload? format block >>= Json.Value.ofText? with
  | some (.object members) => ofMembers? members
  | _ => none

/-- The record of a line. -/
def ofLine (line : Line) : LineRecord where
  message := Utf8.lossy line.message
  offset := line.offset
  size := line.size
  isPartial := !line.terminated

/-- The octets of the line that a record is about: its message, and a terminator unless it is
partial. -/
def bytes (record : LineRecord) : Bytes :=
  Bytes.ofChars record.message ++ if record.isPartial then [] else [newline]

/-! ## Reading what has been written -/

/-- The members that the JSON object of a line has. -/
def members (line : Line) : List (List Char × Json.Value) :=
  [("message".toList, .text (Utf8.lossy line.message)),
    ("offset".toList, .number (Bytes.ofChars (Decimal.digits line.offset))),
    ("size".toList, .number (Bytes.ofChars (Decimal.digits line.size)))] ++
    if line.terminated then [] else [("partial".toList, .bool true)]

theorem spells_json (line : Line) :
    Json.Value.Spells (Bytes.ofChars line.json) (.object (members line)) := by
  apply Json.Value.spells_object
  apply List.Forall₂.cons ⟨rfl, Json.Value.spells_text _⟩
  apply List.Forall₂.cons ⟨rfl, Json.Value.spells_digits _⟩
  apply List.Forall₂.cons ⟨rfl, Json.Value.spells_digits _⟩
  cases line.terminated with
  | true => exact .nil
  | false => exact .cons ⟨rfl, Json.Value.spells_true⟩ .nil

theorem ofMembers?_members (line : Line) : ofMembers? (members line) = some (ofLine line) := by
  have message_found : (members line).lookup "message".toList =
      some (.text (Utf8.lossy line.message)) := rfl
  have offset_found : (members line).lookup "offset".toList =
      some (.number (Bytes.ofChars (Decimal.digits line.offset))) := rfl
  have size_found : (members line).lookup "size".toList =
      some (.number (Bytes.ofChars (Decimal.digits line.size))) := rfl
  have partial_read : ((members line).lookup "partial".toList).elim (some false) Json.Value.bool? =
      some (!line.terminated) := by
    cases ends : line.terminated with
    | true =>
        rw [members, ends]
        rfl
    | false =>
        rw [members, ends]
        rfl
  simp only [ofMembers?, message_found, offset_found, size_found, partial_read, Option.bind_eq_bind,
    Option.bind_some, Json.Value.text?, Json.Value.natural?_digits]
  rfl

theorem payload?_lineBlock {format : OutputFormat} (structured : format ≠ .text) (line : Line) :
    ∃ space, (∀ octet ∈ space, Json.isSpace octet = true) ∧
      payload? format (format.lineBlock line) = some (Bytes.ofChars line.json ++ space) := by
  cases format with
  | text => exact absurd rfl structured
  | json => exact ⟨[newline], List.forall_mem_singleton.mpr rfl, rfl⟩
  | sse =>
      refine ⟨[], List.forall_mem_nil _, ?_⟩
      have data : (Bytes.ofString "data: ").isPrefixOf? (eventBlock line.json) =
          some (Bytes.ofChars line.json ++ [newline, newline]) := by
        rw [List.isPrefixOf?_eq_some_iff_append_eq, eventBlock, List.append_assoc]
      have text : [newline, newline].isSuffixOf? (Bytes.ofChars line.json ++ [newline, newline]) =
          some (Bytes.ofChars line.json) := by
        rw [List.isSuffixOf?_eq_some_iff_append_eq]
      rw [OutputFormat.lineBlock, payload?, data, Option.bind_eq_bind, Option.bind_some, text,
        List.append_nil]

/-- A block is read for the record of its line. -/
theorem ofBlock?_lineBlock {format : OutputFormat} (structured : format ≠ .text) (line : Line) :
    ofBlock? format (format.lineBlock line) = some (ofLine line) := by
  obtain ⟨space, spaces, payload⟩ := payload?_lineBlock structured line
  rw [ofBlock?, payload, Option.bind_eq_bind, Option.bind_some, (spells_json line).ofText? spaces]
  exact ofMembers?_members line

/-! ## Lines in a file -/

/-- The record's offset and size delimit the octets of its message. -/
def Delimits (record : LineRecord) (content : Bytes) : Prop :=
  record.offset + record.size ≤ content.length ∧
    content.slice record.offset (record.offset + record.size) = Bytes.ofChars record.message

/-- The octets of a line of text are had back from its record. -/
theorem bytes_ofLine {line : Line} (isText : Utf8.IsText line.bytes) :
    (ofLine line).bytes = line.bytes := by
  have message_eq := (Line.isText_message isText).ofChars_lossy
  cases ends : line.terminated <;> simp [bytes, ofLine, Line.bytes, ends, message_eq]

theorem delimits_ofLine {line : Line} {content : Bytes} (lies : line.LiesIn content)
    (isText : Utf8.IsText line.bytes) : (ofLine line).Delimits content := by
  have inside := lies.stop_le_length
  rw [Line.stop_eq, Line.span] at inside
  constructor
  · exact Nat.le_trans (Nat.add_le_add_left (Nat.le_add_right ..) line.offset) inside
  · exact lies.slice_message.trans (Line.isText_message isText).ofChars_lossy.symm

end LineRecord

end RemoteTail

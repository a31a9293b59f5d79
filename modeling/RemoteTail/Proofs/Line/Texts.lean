import RemoteTail.Proofs.Line.Laid
import RemoteTail.Proofs.Text.Boundary

/-!
# Lines of text

A terminator is a character, so a text that is cut at its terminators falls into
texts.  With them the lines of a chunk of text are text, and so is the fragment
that a whole chunk makes.
-/

namespace RemoteTail

/-- A text cut at its terminators falls into texts. -/
theorem isText_of_mem_messages {messages : List Bytes} {rest : Bytes}
    (isText : Utf8.IsText (join messages ++ rest)) :
    ∀ message ∈ messages, Utf8.IsText (message ++ [newline]) := by
  induction messages with
  | nil =>
      intro message member
      cases member
  | cons first messages ih =>
      have first_ends : (join (first :: messages) ++ rest)[first.length]? = some newline := by
        simp [join_cons]
      obtain ⟨taken, dropped⟩ := isText.divide (isText.isBoundary_succ Utf8.newline_low first_ends)
      have parts : join (first :: messages) ++ rest =
          (first ++ [newline]) ++ (join messages ++ rest) := by
        simp [join_cons]
      have length_eq : (first ++ [newline]).length = first.length + 1 := List.length_append
      rw [parts, List.take_left' length_eq] at taken
      rw [parts, List.drop_left' length_eq] at dropped
      intro message member
      rcases List.mem_cons.mp member with rfl | later
      · exact taken
      · exact ih dropped message later

theorem bytes_of_mem_layLines {messages : List Bytes} {offset : Nat} {line : Line}
    (member : line ∈ layLines offset messages) :
    ∃ message ∈ messages, line.bytes = message ++ [newline] := by
  induction messages generalizing offset with
  | nil => cases member
  | cons first messages ih =>
      rcases List.mem_cons.mp member with rfl | later
      · exact ⟨first, List.mem_cons_self, rfl⟩
      · obtain ⟨message, among, bytes_eq⟩ := ih later
        exact ⟨message, List.mem_cons_of_mem first among, bytes_eq⟩

/-- A terminator is no part of a character, so the message of a line of text is text. -/
theorem Line.isText_message {line : Line} (isText : Utf8.IsText line.bytes) :
    Utf8.IsText line.message := by
  cases ends : line.terminated with
  | false => simpa [Line.bytes, ends] using isText
  | true =>
      rw [Line.bytes, ends, if_pos rfl] at isText
      have boundary : Utf8.IsBoundary (line.message ++ [newline]) line.message.length :=
        Utf8.isBoundary_of_low Utf8.newline_low (by simp)
      have message := (isText.divide boundary).1
      rwa [List.take_left] at message

/-- The lines of a chunk of text are text. -/
theorem Cursor.isText_of_mem_chunkLines {data : Bytes} {offset chunkSize : Nat}
    (isText : Utf8.IsText data) {line : Line} (member : line ∈ chunkLines data offset chunkSize) :
    Utf8.IsText line.bytes := by
  by_cases found : newline ∈ data
  · rw [chunkLines_of_mem offset chunkSize found] at member
    obtain ⟨message, among, bytes_eq⟩ := bytes_of_mem_layLines member
    rw [← join_cut data] at isText
    rw [bytes_eq]
    exact isText_of_mem_messages isText message among
  · cases fills : fillsWindow data.length chunkSize with
    | true =>
        rw [chunkLines_of_full offset found fills, List.mem_singleton] at member
        rw [member]
        simpa [Line.bytes] using isText
    | false =>
        rw [chunkLines_of_short offset found fills] at member
        cases member

end RemoteTail

import RemoteTail.Proofs.Cursor.TextBlocks
import RemoteTail.Proofs.Tail.Location

/-!
# Reading the last lines

A cursor from the bottom searches for the tail of a file and then reads on from
there, while the file may grow before every read.  Search and read look at the
file through different windows, but count the same lines: the blocks are the last
lines of the file as it was when its size was read.  A file with fewer lines is
read from its beginning.
-/

namespace RemoteTail

open Simulation Bytes

namespace Cursor

/-- A character may begin at the tail of what a file held before it grew. -/
theorem begins_tailOffset {file : MemoryFile} {content : Bytes} (readable : file.Readable)
    (grows : content <+: file.bytes) (wanted : Nat) : file.Begins (content.tailOffset wanted) := by
  rcases Nat.eq_zero_or_pos (content.tailOffset wanted) with none_before | some_before
  · rw [none_before]
    exact MemoryFile.begins_zero readable
  · have found : file.bytes[content.tailOffset wanted - 1]? = some newline := by
      obtain ⟨more, grown⟩ := grows
      have ends := getElem?_tailOffset_pred some_before
      rw [← grown, List.getElem?_append_left (List.getElem?_eq_some_iff.mp ends).1]
      exact ends
    have begins := MemoryFile.begins_of_newline readable found
    rwa [Nat.sub_add_cancel some_before] at begins

namespace Reads

variable {config : ReadConfig} {bound : Nat} {c : Cursor} {service : Service ReadReply}
  {file : MemoryFile} {lines : List Line}

/-- From the tail of what the file held with enough lines, these last lines are read. -/
theorem written_eq_lastLines {content : Bytes}
    (reads : Reads config (content.tailOffset config.maxLines) bound c service file lines)
    (grows : content <+: file.bytes) (final : c.emitted = config.maxLines ∨ c.Exhausted file)
    (many : config.maxLines ≤ content.count newline) :
    c.emitted = config.maxLines ∧
      lines.flatMap Line.bytes = content.lastLines config.maxLines := by
  have present := lastLines_prefix_drop grows config.maxLines
  have counted : (content.lastLines config.maxLines).count newline = config.maxLines := by
    rw [count_newline_lastLines, Nat.min_eq_left many]
  have reached := reads.reached_of_le_count final
    (Nat.le_trans (Nat.le_of_eq counted.symm) (present.sublist.count_le newline))
  exact ⟨reached, reads.written_eq reached present (endsLine_join _) counted⟩

/-- From the beginning, either as many lines are read as are wanted, or all that there are. -/
theorem written_from_zero (reads : Reads config 0 bound c service file lines)
    (final : c.emitted = config.maxLines ∨ c.Exhausted file) :
    config.maxLines ≤ file.bytes.count newline ∧
        lines.flatMap Line.bytes = file.bytes.firstLines config.maxLines ∨
      (lines.flatMap Line.bytes).count newline < config.maxLines ∧
        newline ∉ file.bytes.drop (lines.flatMap Line.bytes).length := by
  have emitted_le := reads.within.emitted_le
  rw [reads.config_eq] at emitted_le
  rcases Nat.eq_or_lt_of_le emitted_le with reached | free
  · have many := reads.emitted_le_count
    rw [reached, List.drop_zero] at many
    refine .inl ⟨many, reads.written_eq reached ?_ (endsLine_join _) ?_⟩
    · exact firstLines_prefix ..
    · rw [count_newline_firstLines, Nat.min_eq_left many]
  · have exhausted := final.resolve_left (Nat.ne_of_lt free)
    have inside := reads.served.offset_le_size
    have length_eq : (lines.flatMap Line.bytes).length = c.offset := by
      rw [reads.served.tracks.written_of_buffer_nil exhausted.buffer_eq, slice_zero,
        List.length_take, MemoryFile.length_bytes, Nat.min_eq_left inside]
    rw [reads.served.tracks.count_newline_written, length_eq]
    exact .inr ⟨free, exhausted.no_newline⟩

end Reads

/-- Reading from the bottom ends.  If the file had as many lines as are wanted when its size was read,
the blocks are the last of these lines and nothing else, with one terminated block for each.  If not,
reading begins at the top, and the blocks are a beginning of the file as it is in the end, which has
all the lines that are wanted or leaves no terminator unread. -/
theorem blocks_of_start_bottomToTop {file : MemoryFile} {service : Service ReadReply}
    {coordinates : TaskCoordinates} {name : String} {config : ReadConfig}
    (serves : service.Serves file) (fits : file.FitsWindow config.chunkSize)
    (sound : checked coordinates name config = .ok ()) (bottom : config.direction = .bottomToTop)
    (finite : config.stream = false) :
    ∃ c started limit blocks last service' file',
      (start serviceEndpoint coordinates name OutputFormat.text.formatter config).run service =
          (some (.ok c), started) ∧
        (c.blocks serviceEndpoint limit).run started = (some (blocks, .ended, last), service') ∧
        service'.source = .memory file' ∧
        (config.maxLines ≤ (service.ahead file).bytes.count newline →
          blocks.flatten = (service.ahead file).bytes.lastLines config.maxLines ∧
            blocks.countP (·.getLast? = some newline) = config.maxLines) ∧
        ((service.ahead file).bytes.count newline < config.maxLines →
          c.offset = 0 ∧ blocks.flatten <+: file'.bytes ∧
            (config.maxLines ≤ file'.bytes.count newline ∧
                blocks.flatten = file'.bytes.firstLines config.maxLines ∨
              blocks.flatten.count newline < config.maxLines ∧
                newline ∉ file'.bytes.drop blocks.flatten.length)) := by
  obtain ⟨some_line, positive⟩ := positive_of_validate (validate_of_checked sound)
  obtain ⟨started, more, located, serves_started⟩ := RemoteFile.locateTail_serves serves
    ⟨coordinates.filePath name, config.headers⟩ some_line positive 0
  have start_eq := @start_run_bottomToTop _ _ OutputFormat.text.formatter _ _ serviceEndpoint
    sound bottom service
  rw [located] at start_eq
  have grown := (service.ahead file).bytes_prefix_append more
  have inside : (service.ahead file).bytes.tailOffset config.maxLines ≤
      ((service.ahead file).append more).size := by
    rw [← MemoryFile.length_bytes]
    exact Nat.le_trans (tailOffset_le_length ..) grown.length_le
  have begins := begins_tailOffset serves_started.readable grown config.maxLines
  have reads := Reads.of_fresh sound finite serves_started fits inside begins
  obtain ⟨lines, last, service', file', run_eq, ended, grown', final⟩ :=
    reads.blocks (fun _ file' _ => (service.ahead file).bytes <+: file'.bytes)
      (fun _ takes grown => grown.trans takes.bytes_grow) grown (Nat.lt_succ_self _)
  refine ⟨_, started, _, _, last, service', file', start_eq, run_eq,
    ended.served.serves.source_eq, ?_, ?_⟩
  · intro many
    obtain ⟨reached, written⟩ := ended.written_eq_lastLines grown' final many
    rw [← List.flatMap_def, ended.served.tracks.countP_ends_written]
    exact ⟨written, reached⟩
  · intro few
    have top := tailOffset_eq_zero (Nat.le_of_lt few)
    rw [top] at ended
    have written := ended.served.tracks.written_prefix
    rw [List.drop_zero] at written
    rw [← List.flatMap_def]
    exact ⟨top, written, ended.written_from_zero final⟩

/-- The last line of a text of two lines, which a third line joins while it is searched. -/
theorem blocks_of_start_bottomToTop_of_growing_text :
    let file : MemoryFile := { content := #[0xC3, 0xA9, 0x0A, 0x62, 0x0A], charAligned := true }
    ∃ c started limit blocks last service',
      (start serviceEndpoint ⟨"agent", "framework", "executor", "container", none⟩ "stdout"
          OutputFormat.text.formatter
          { direction := .bottomToTop, maxLines := 1, chunkSize := 7 }).run
          { source := .memory file, growth := [(2, [0x63, 0x0A])] } = (some (.ok c), started) ∧
        (c.blocks serviceEndpoint limit).run started = (some (blocks, .ended, last), service') ∧
        blocks.flatten = [0x62, 0x0A] ∧ blocks.countP (·.getLast? = some newline) = 1 := by
  intro file
  let service : Service ReadReply :=
    { source := .memory file, growth := [(2, [0x63, 0x0A])] }
  let config : ReadConfig := { direction := .bottomToTop, maxLines := 1, chunkSize := 7 }
  have file_text : Utf8.IsText file.bytes := ⟨['é', '\n', 'b', '\n'], by decide⟩
  have growth_text : ∀ entry ∈ service.growth, Utf8.IsText entry.2 := by
    intro entry member
    rw [List.mem_singleton.mp member]
    exact ⟨['c', '\n'], by decide⟩
  have serves : service.Serves file :=
    ⟨rfl, rfl, rfl, rfl, rfl, fun _ => file_text, fun _ => growth_text⟩
  have fits : file.FitsWindow config.chunkSize := ⟨by decide, fun _ => by decide⟩
  have sound : checked ⟨"agent", "framework", "executor", "container", none⟩ "stdout" config =
      .ok () := rfl
  obtain ⟨c, started, limit, blocks, last, service', _, start_eq, blocks_eq, _, many, _⟩ :=
    blocks_of_start_bottomToTop serves fits sound rfl rfl
  obtain ⟨written, counted⟩ := many (by decide)
  exact ⟨c, started, limit, blocks, last, service', start_eq, blocks_eq, written, counted⟩

end Cursor

end RemoteTail

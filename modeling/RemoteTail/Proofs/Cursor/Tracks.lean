import RemoteTail.Proofs.Cursor.Pull
import RemoteTail.Proofs.Line.Laid

/-!
# Cursors that keep track of a file

`Tracks` is the invariant of reading.  The lines handed out so far and then the
buffered ones are laid out in the file, from where reading began up to the
position of the next read, and the count is the number of terminated lines among
those handed out.

It speaks of the file as it is at one moment.  Growth keeps it, and so do the two
steps a pull is made of: taking in a chunk of the file at the cursor's offset,
and taking a line out of the buffer.
-/

namespace RemoteTail

namespace Cursor

/-- The lines handed out so far and the buffered ones lie in the content one after another, from
`start` up to the position of the next read. -/
structure Tracks (c : Cursor) (content : Bytes) (start : Nat) (lines : List Line) : Prop where
  laid : Laid content start (lines ++ c.buffer) c.offset
  emitted_eq : c.emitted = lines.countP (·.terminated)
  chunkSize_pos : 0 < c.config.chunkSize

namespace Tracks

variable {c : Cursor} {content grown : Bytes} {start : Nat} {lines : List Line}

/-- A cursor that has read nothing tracks every file from its own offset. -/
theorem initial (content : Bytes) (unread : c.buffer = []) (uncounted : c.emitted = 0)
    (positive : 0 < c.config.chunkSize) : c.Tracks content c.offset [] where
  laid := by
    rw [unread]
    exact Laid.nil content c.offset
  emitted_eq := by simpa using uncounted
  chunkSize_pos := positive

theorem grow (tracks : c.Tracks content start lines) (grows : content <+: grown) :
    c.Tracks grown start lines where
  laid := tracks.laid.of_prefix grows
  emitted_eq := tracks.emitted_eq
  chunkSize_pos := tracks.chunkSize_pos

/-- A chunk of the file at the cursor's offset extends what is laid out. -/
theorem absorb (tracks : c.Tracks content start lines) {chunk : Chunk}
    (present : content.slice c.offset (c.offset + chunk.data.length) = chunk.data) :
    (c.absorb chunk).Tracks content start lines where
  laid := by
    obtain ⟨stop, laid, _⟩ := laid_chunkLines tracks.chunkSize_pos present
    have extended := tracks.laid.append laid
    rw [laid.stop_eq, List.append_assoc] at extended
    exact extended
  emitted_eq := tracks.emitted_eq
  chunkSize_pos := tracks.chunkSize_pos

/-- Taking a line out of the buffer moves it to the lines handed out. -/
theorem dequeue (tracks : c.Tracks content start lines) :
    c.dequeue.2.Tracks content start (lines ++ Taking.lines (.ok c.dequeue.1)) where
  laid := by
    rw [List.append_assoc, lines_dequeue_append, dequeue_offset]
    exact tracks.laid
  emitted_eq := by
    rw [dequeue_emitted, List.countP_append, tracks.emitted_eq]
  chunkSize_pos := by
    rw [dequeue_config]
    exact tracks.chunkSize_pos

/-- A read that fails changes nothing, and one that shows the file at the cursor's offset keeps
track of it. -/
theorem settle (tracks : c.Tracks content start lines) {reply : Reply}
    (shown : ∀ chunk, reply = .ok chunk → ∃ stop, chunk.data = content.slice c.offset stop) :
    (c.settle reply).2.Tracks content start (lines ++ (c.settle reply).1.lines) := by
  cases reply with
  | error error =>
      rw [show (c.settle (.error error)).1.lines = [] from rfl, List.append_nil]
      exact tracks
  | ok chunk =>
      obtain ⟨stop, data_eq⟩ := shown chunk rfl
      apply Tracks.dequeue
      apply tracks.absorb
      rw [data_eq, Bytes.slice_add_length]

/-- A pull keeps track of the file if its read shows the file at the cursor's offset. -/
theorem takeLine {σ : Type} {endpoint : Endpoint (StateM σ)} {world world' : σ} {taking : Taking}
    {next : Cursor} (tracks : c.Tracks content start lines)
    (taken : (c.takeLine endpoint).run world = (some (taking, next), world'))
    (kept : world' = world → content <+: grown)
    (shown : ∀ reply, (c.file.fetch endpoint c.offset c.config.chunkSize).run world =
        (some reply, world') → content <+: grown ∧
          ∀ chunk, reply = .ok chunk → ∃ stop, chunk.data = grown.slice c.offset stop) :
    next.Tracks grown start (lines ++ taking.lines) := by
  rcases takeLine_cases taken with
    ⟨_, rfl, rfl, same⟩ | ⟨_, _, reply, answered, rfl, rfl⟩ | ⟨_, _, rfl, rfl, same⟩
  · rw [show Taking.lines (.ok none) = [] from rfl, List.append_nil]
    exact tracks.grow (kept same)
  · obtain ⟨grows, present⟩ := shown reply answered
    exact (tracks.grow grows).settle present
  · exact (tracks.grow (kept same)).dequeue

/-! ### Lines written out -/

/-- The lines handed out are a beginning of what the content holds from the start on. -/
theorem written_prefix (tracks : c.Tracks content start lines) :
    lines.flatMap Line.bytes <+: content.drop start := by
  obtain ⟨middle, first, _⟩ := tracks.laid.of_append
  rw [first.flatMap_bytes]
  exact List.take_prefix ..

theorem count_newline_written (tracks : c.Tracks content start lines) :
    (lines.flatMap Line.bytes).count newline = c.emitted := by
  obtain ⟨middle, first, _⟩ := tracks.laid.of_append
  rw [first.flatMap_bytes, first.count_newline, tracks.emitted_eq]

/-- As many of the blocks end with a terminator as are counted. -/
theorem countP_ends_written (tracks : c.Tracks content start lines) :
    (lines.map Line.bytes).countP (·.getLast? = some newline) = c.emitted := by
  rw [tracks.emitted_eq, List.countP_map]
  apply List.countP_congr
  intro line member
  have lies := tracks.laid.liesIn (List.mem_append_left c.buffer member)
  simpa using lies.getLast?_bytes_eq_newline_iff

/-- Once the buffer is empty, everything up to the position of the next read has been written. -/
theorem written_of_buffer_nil (tracks : c.Tracks content start lines) (handed : c.buffer = []) :
    lines.flatMap Line.bytes = content.slice start c.offset := by
  have laid := tracks.laid
  rw [handed, List.append_nil] at laid
  exact laid.flatMap_bytes

theorem written_append_drop (tracks : c.Tracks content start lines) (handed : c.buffer = []) :
    lines.flatMap Line.bytes ++ content.drop c.offset = content.drop start := by
  have reached := tracks.laid.start_le_stop
  rw [tracks.written_of_buffer_nil handed, Bytes.slice,
    show content.drop c.offset = (content.drop start).drop (c.offset - start) by
      rw [List.drop_drop, Nat.add_sub_cancel' reached],
    List.take_append_drop]

end Tracks

end Cursor

end RemoteTail

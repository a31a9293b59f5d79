import RemoteTail.Proofs.Cursor.Course
import RemoteTail.Proofs.Simulation.Steady

/-!
# Reading a file that stays as it is

A reading that is pulled again and again comes to a first pull that finds the end
of the data (`Reading.Ends`).  Pulls that fail on the way are passed over.

In front of a plain file that stays as it is, with whatever cap on its answers,
every pull does one of three things (`Perusal`): it stops at the line limit, it
hands out a line that has been read before, or it reads a window.  What becomes
of a window is said by `TakesIn`: it ends lines, or it is a fragment, or nothing
can be handed out.
-/

namespace RemoteTail

open Simulation Bytes

namespace Reading

variable {σ : Type} {endpoint : Endpoint (StateM σ)}

/-! ## The first end of the data -/

/-- Pulled again and again, a reading finds the end of the data for the first time with the pull
that leaves `last`. -/
inductive Ends (endpoint : Endpoint (StateM σ)) : (reading last : Reading σ) → Prop where
  /-- The pull finds the end. -/
  | here {reading : Reading σ}
      (nothing : reading.given endpoint (.pull .never) = [some (.ok none)]) :
      Ends endpoint reading (reading.next endpoint (.pull .never))
  /-- The pull gives a block or an error. -/
  | later {reading last : Reading σ} {pulled : Pulled} (something : pulled ≠ .ok none)
      (given_eq : reading.given endpoint (.pull .never) = [some pulled])
      (rest : Ends endpoint (reading.next endpoint (.pull .never)) last) :
      Ends endpoint reading last

/-- There is only one first time. -/
theorem Ends.unique {reading last last' : Reading σ} (ends : reading.Ends endpoint last)
    (ends' : reading.Ends endpoint last') : last = last' := by
  induction ends with
  | here nothing =>
      cases ends' with
      | here _ => rfl
      | later something given_eq _ =>
          rw [nothing] at given_eq
          cases given_eq
          exact absurd rfl something
  | later something given_eq _ ih =>
      cases ends' with
      | here nothing =>
          rw [nothing] at given_eq
          cases given_eq
          exact absurd rfl something
      | later _ _ rest => exact ih rest

/-- The end is found if every pull that gives a line keeps an invariant that bounds the number of
lines handed out.  `Final` is what the pull that finds the end establishes. -/
theorem exists_ends {Inv Final : Reading σ → Prop} {bound : Nat}
    (step : ∀ {reading}, Inv reading → ∃ found cursor world,
      (reading.cursor.takeLine endpoint).run reading.world = (some (.ok found, cursor), world) ∧
        (found ≠ none → Inv ⟨cursor, world, reading.lines ++ Taking.lines (.ok found)⟩) ∧
        (found = none → Final ⟨cursor, world, reading.lines ++ Taking.lines (.ok found)⟩))
    (bounded : ∀ {reading}, Inv reading → reading.lines.length ≤ bound)
    {reading : Reading σ} (inv : Inv reading) :
    ∃ last, reading.Ends endpoint last ∧ Final last := by
  obtain ⟨left, enough⟩ : ∃ left, bound < reading.lines.length + left := ⟨bound + 1, by omega⟩
  induction left generalizing reading with
  | zero =>
      have few := bounded inv
      omega
  | succ left ih =>
      obtain ⟨found, cursor, world, taken, kept, final⟩ := step inv
      obtain ⟨given_eq, next_eq⟩ := @pull_of_taken _ endpoint _ _ _ _ reading.lines _ .never
        (by decide) taken
      rw [← next_eq] at kept final
      cases found with
      | none => exact ⟨_, .here given_eq, final rfl⟩
      | some line =>
          obtain ⟨last, ends, done⟩ := ih (kept (Option.some_ne_none line)) (by
            rw [next_eq, List.length_append, Taking.lines, List.length_singleton]
            omega)
          have something : reading.cursor.written (.ok (some line)) ≠ .ok none := by
            rw [Ne, Cursor.written_eq_ok_none_iff]
            rintro ⟨⟩
          exact ⟨last, .later something given_eq ends, done⟩

end Reading

/-! ## Windows -/

/-- What becomes of a window that is read at `offset` and shows the content up to `stop`: the lines
that it gives, and the position of the next read. -/
inductive TakesIn (content : Bytes) (chunkSize offset stop : Nat) :
    (lines : List Line) → (next : Nat) → Prop where
  /-- The window ends lines, the last of them right before `next`. -/
  | lines {lines : List Line} {next : Nat} (after : offset < next) (before : next ≤ stop)
      (ends : content[next - 1]? = some newline) (free : newline ∉ content.slice next stop)
      (some_line : lines ≠ []) (terminated : ∀ line ∈ lines, line.terminated = true) :
      TakesIn content chunkSize offset stop lines next
  /-- The window is full and a fragment. -/
  | fragment (free : newline ∉ content.slice offset stop)
      (fills : fillsWindow (stop - offset) chunkSize = true) :
      TakesIn content chunkSize offset stop [⟨content.slice offset stop, offset, false⟩] stop
  /-- Nothing can be handed out. -/
  | nothing (free : newline ∉ content.slice offset stop)
      (short : fillsWindow (stop - offset) chunkSize = false) :
      TakesIn content chunkSize offset stop [] offset

namespace Cursor

/-- The lines of a window are laid out from where it is read, and the window is taken in. -/
theorem takesIn_chunkLines {content : Bytes} {chunkSize offset stop : Nat}
    (positive : 0 < chunkSize) (before : offset ≤ stop) (inside : stop ≤ content.length) :
    ∃ next, Laid content offset (chunkLines (content.slice offset stop) offset chunkSize) next ∧
      TakesIn content chunkSize offset stop
        (chunkLines (content.slice offset stop) offset chunkSize) next := by
  have length_eq : (content.slice offset stop).length = stop - offset := by
    rw [length_slice]
    omega
  have present := content.slice_add_length offset stop
  have stop_eq : offset + (content.slice offset stop).length = stop := by omega
  by_cases found : newline ∈ content.slice offset stop
  · obtain ⟨next, laid, after, within, ends, free⟩ :=
      laid_chunkLines_of_mem chunkSize present found
    rw [stop_eq] at within free
    refine ⟨next, laid, .lines after within ends free ?_ ?_⟩
    · intro nothing
      exact (chunkLines_eq_nil_iff.mp nothing).1 found
    · intro line member
      rw [chunkLines_of_mem offset chunkSize found] at member
      exact terminated_of_mem_layLines member
  · cases fills : fillsWindow (stop - offset) chunkSize with
    | true =>
        have full : fillsWindow (content.slice offset stop).length chunkSize = true := by
          rw [length_eq, fills]
        have laid := laid_chunkLines_of_full positive present found full
        rw [stop_eq] at laid
        refine ⟨stop, laid, ?_⟩
        rw [chunkLines_of_full offset found full]
        exact .fragment found fills
    | false =>
        have short : fillsWindow (content.slice offset stop).length chunkSize = false := by
          rw [length_eq, fills]
        rw [chunkLines_of_short offset found short]
        exact ⟨offset, Laid.nil content offset, .nothing found fills⟩

end Cursor

/-! ## Pulls -/

/-- The position up to which a plain file shows a window that is read at `offset`. -/
def Simulation.MemoryFile.reach (file : MemoryFile) (chunkSize offset : Nat) : Nat :=
  min (offset + min chunkSize (file.cap.getD chunkSize)) file.size

theorem Simulation.MemoryFile.slice_reach (file : MemoryFile) (chunkSize offset : Nat) :
    file.bytes.slice offset (file.reach chunkSize offset) =
      file.bytes.slice offset (offset + min chunkSize (file.cap.getD chunkSize)) := by
  rw [MemoryFile.reach, ← MemoryFile.length_bytes]
  apply List.take_eq_take_iff.mpr
  rw [List.length_drop]
  omega

namespace Reading

/-- The reader of a plain file that stays as it is and is answered.  The lines known since `start`
lie in the file one after another, up to the position of the next read. -/
structure Peruses (reading : Reading (Service ReadReply)) (file : MemoryFile) (start : Nat) :
    Prop where
  steady : reading.world.Steady file
  answering : reading.world.treatment = .answered
  plain : file.charAligned = false
  laid : Laid file.bytes start reading.known reading.cursor.offset
  inside : start ≤ file.size
  positive : 0 < reading.cursor.config.chunkSize

/-- All that a pull can do in front of a plain file that stays as it is, with the line that it
finds. -/
inductive Perusal (file : MemoryFile) (before after : Reading (Service ReadReply)) :
    (found : Option Line) → Prop where
  /-- The line limit is reached. -/
  | limited (reached : before.cursor.limitReached = true) (same : after = before) :
      Perusal file before after none
  /-- A line is handed out that has been read before. -/
  | buffered {line : Line} (known_eq : after.known = before.known)
      (offset_eq : after.cursor.offset = before.cursor.offset)
      (world_eq : after.world = before.world) : Perusal file before after (some line)
  /-- A window is read. -/
  | read {found : Option Line} {lines : List Line} (unlimited : before.cursor.limitReached = false)
      (world_eq : after.world = before.world.called
        ⟨before.cursor.file, .bytes before.cursor.offset before.cursor.config.chunkSize⟩)
      (known_eq : after.known = before.known ++ lines)
      (found_iff : found = none ↔ lines = [])
      (takesIn : TakesIn file.bytes before.cursor.config.chunkSize before.cursor.offset
        (file.reach before.cursor.config.chunkSize before.cursor.offset) lines
        after.cursor.offset) : Perusal file before after found

namespace Peruses

variable {reading : Reading (Service ReadReply)} {file : MemoryFile} {start : Nat}

theorem offset_le_size (peruses : reading.Peruses file start) :
    reading.cursor.offset ≤ file.size := by
  have inside : start ≤ file.bytes.length := by
    rw [MemoryFile.length_bytes]
    exact peruses.inside
  have bound := peruses.laid.stop_le_length inside
  rwa [MemoryFile.length_bytes] at bound

/-- There are no more lines than the file has octets. -/
theorem length_le_size (peruses : reading.Peruses file start) :
    reading.lines.length ≤ file.size := by
  have counted := peruses.laid.length_add_start_le
  have bound := peruses.offset_le_size
  rw [known, List.length_append] at counted
  omega

/-- A read shows the file from the position of the reader on, as far as it reaches. -/
theorem read_eq {c : Cursor} {world : Service ReadReply} {lines : List Line}
    (peruses : Peruses ⟨c, world, lines⟩ file start) :
    file.read (.bytes c.offset c.config.chunkSize) =
      ⟨file.bytes.slice c.offset (file.reach c.config.chunkSize c.offset), c.offset⟩ := by
  rw [MemoryFile.read_plain peruses.plain, MemoryFile.slice_reach]

/-- Handing a line out does not change what is known. -/
theorem known_dequeue (c : Cursor) (world : Service ReadReply) (lines : List Line) :
    known ⟨c.dequeue.2, world, lines ++ Taking.lines (.ok c.dequeue.1)⟩ =
      known ⟨c, world, lines⟩ := by
  rw [known, List.append_assoc, Cursor.lines_dequeue_append]
  rfl

theorem dequeue {c : Cursor} {world : Service ReadReply} {lines : List Line}
    (peruses : Peruses ⟨c, world, lines⟩ file start) :
    Peruses ⟨c.dequeue.2, world, lines ++ Taking.lines (.ok c.dequeue.1)⟩ file start where
  steady := peruses.steady
  answering := peruses.answering
  plain := peruses.plain
  laid := by
    rw [known_dequeue, Cursor.dequeue_offset]
    exact peruses.laid
  inside := peruses.inside
  positive := by
    rw [Cursor.dequeue_config]
    exact peruses.positive

/-- Reading a window calls the service, and its lines follow what is known. -/
theorem absorb {c : Cursor} {world : Service ReadReply} {lines : List Line}
    (peruses : Peruses ⟨c, world, lines⟩ file start) :
    ∃ more chunk, file.read (.bytes c.offset c.config.chunkSize) = chunk ∧
      (c.absorb chunk).buffer = c.buffer ++ more ∧
      Peruses ⟨c.absorb chunk, world.called ⟨c.file, .bytes c.offset c.config.chunkSize⟩, lines⟩
        file start ∧
      TakesIn file.bytes c.config.chunkSize c.offset (file.reach c.config.chunkSize c.offset) more
        (c.absorb chunk).offset := by
  have before : c.offset ≤ file.reach c.config.chunkSize c.offset :=
    Nat.le_min.mpr ⟨Nat.le_add_right .., peruses.offset_le_size⟩
  have inside : file.reach c.config.chunkSize c.offset ≤ file.bytes.length := by
    rw [MemoryFile.length_bytes]
    exact Nat.min_le_right ..
  obtain ⟨next, laid, takesIn⟩ := Cursor.takesIn_chunkLines peruses.positive before inside
  obtain rfl := laid.stop_eq
  refine ⟨_, _, peruses.read_eq, rfl, ?_, takesIn⟩
  constructor
  · exact peruses.steady.called _
  · exact peruses.answering
  · exact peruses.plain
  · rw [known, Cursor.absorb, ← List.append_assoc]
    exact peruses.laid.append laid
  · exact peruses.inside
  · exact peruses.positive

/-- Every pull is complete and keeps the lines where they lie. -/
theorem takeLine {c : Cursor} {world : Service ReadReply} {lines : List Line}
    (peruses : Peruses ⟨c, world, lines⟩ file start) :
    ∃ found next world',
      (c.takeLine serviceEndpoint).run world = (some (.ok found, next), world') ∧
        Peruses ⟨next, world', lines ++ Taking.lines (.ok found)⟩ file start ∧
        Perusal file ⟨c, world, lines⟩ ⟨next, world', lines ++ Taking.lines (.ok found)⟩ found := by
  cases limited : c.limitReached with
  | true =>
      have same : lines ++ Taking.lines (.ok none) = lines := List.append_nil lines
      refine ⟨none, c, world, Cursor.takeLine_run_of_limitReached limited world, ?_, ?_⟩
      · rw [same]
        exact peruses
      · rw [same]
        exact .limited limited rfl
  | false =>
      by_cases unread : c.buffer = []
      · obtain ⟨more, chunk, read_eq, buffer_eq, absorbed, takesIn⟩ := peruses.absorb
        rw [unread, List.nil_append] at buffer_eq
        refine ⟨_, _, _, ?_, absorbed.dequeue, ?_⟩
        · rw [Cursor.takeLine_run_of_buffer_nil limited unread, RemoteFile.fetch,
            peruses.steady.read, peruses.answering, Treatment.reply?, read_eq]
          rfl
        · apply @Perusal.read _ _ _ _ more limited rfl
          · rw [known_dequeue, known, known, unread, buffer_eq, List.append_nil]
          · rw [Cursor.dequeue_eq_none_iff, buffer_eq]
          · rw [Cursor.dequeue_offset]
            exact takesIn
      · have taken := @Cursor.takeLine_run_of_buffer_ne_nil _ _ serviceEndpoint limited unread world
        have kept := peruses.dequeue
        have known_eq := known_dequeue c world lines
        cases found : c.dequeue.1 with
        | none => exact absurd ((Cursor.dequeue_eq_none_iff c).mp found) unread
        | some line =>
            rw [found] at taken kept known_eq
            exact ⟨some line, _, _, taken, kept, .buffered known_eq (Cursor.dequeue_offset c) rfl⟩

end Peruses

end Reading

end RemoteTail

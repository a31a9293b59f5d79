import RemoteTail.Proofs.Cursor.Tracks
import RemoteTail.Proofs.Cursor.Drain
import RemoteTail.Proofs.Simulation.Growth

/-!
# Cursors in front of a serving service

A service that serves a file answers every read, with a window that is full or
reaches the end of the file.  So every pull completes, keeps track of the file
as it grows (`Served.takeLine`), and finds nothing for one of two reasons: the
line limit is reached, or no terminator is left and what is left does not fill a
window.
-/

namespace RemoteTail

open Simulation

namespace Cursor

/-! ## Taking in a window -/

/-- How the position of the next read changes: not at all, to the end of a line, or to the end of a
window that holds no terminator. -/
inductive Moves (file : MemoryFile) (chunkSize : Nat) : (offset next : Nat) → Prop where
  /-- Nothing has been read, or nothing that could be handed out. -/
  | stays {offset : Nat} : Moves file chunkSize offset offset
  /-- The window ends lines, the last of them right before `next`. -/
  | lines {offset stop next : Nat} (shows : file.Shows offset chunkSize stop)
      (after : offset < next) (before : next ≤ stop)
      (ends : file.bytes[next - 1]? = some newline) : Moves file chunkSize offset next
  /-- The window is a fragment. -/
  | fragment {offset stop : Nat} (shows : file.Shows offset chunkSize stop)
      (whole : newline ∉ file.bytes.slice offset stop)
      (fills : fillsWindow (stop - offset) chunkSize = true) : Moves file chunkSize offset stop

/-- No terminator is left, and what is left does not fill a window. -/
structure Exhausted (c : Cursor) (file : MemoryFile) : Prop where
  buffer_eq : c.buffer = []
  no_newline : newline ∉ file.bytes.drop c.offset
  short : fillsWindow (file.size - c.offset) c.config.chunkSize = false

theorem Moves.begins {file : MemoryFile} {chunkSize offset next : Nat}
    (moves : Moves file chunkSize offset next) (readable : file.Readable)
    (begins : file.Begins offset) : file.Begins next := by
  cases moves with
  | stays => exact begins
  | lines _ after _ ends =>
      have position_eq : next - 1 + 1 = next := by omega
      rw [← position_eq]
      exact MemoryFile.begins_of_newline readable ends
  | fragment shows _ _ => exact shows.begins

section

variable {c : Cursor} {file : MemoryFile} {stop : Nat}

theorem absorb_offset_of_laid {data : Bytes}
    (laid : Laid file.bytes c.offset (chunkLines data c.offset c.config.chunkSize) stop) :
    (c.absorb ⟨data, c.offset⟩).offset = stop :=
  laid.stop_eq.symm

/-- A window that is taken in moves the cursor past its lines or past itself. -/
theorem absorb_moves (positive : 0 < c.config.chunkSize)
    (shows : file.Shows c.offset c.config.chunkSize stop) :
    Moves file c.config.chunkSize c.offset
      (c.absorb ⟨file.bytes.slice c.offset stop, c.offset⟩).offset := by
  have length_eq := shows.length_slice
  have present := file.bytes.slice_add_length c.offset stop
  have stop_eq : c.offset + (file.bytes.slice c.offset stop).length = stop := by
    have start_le := shows.start_le
    omega
  by_cases found : newline ∈ file.bytes.slice c.offset stop
  · obtain ⟨next, laid, after, before, ends, _⟩ :=
      laid_chunkLines_of_mem c.config.chunkSize present found
    rw [absorb_offset_of_laid laid]
    rw [stop_eq] at before
    exact .lines shows after before ends
  · cases fills : fillsWindow (stop - c.offset) c.config.chunkSize with
    | true =>
        have laid := laid_chunkLines_of_full positive present found (length_eq ▸ fills)
        rw [absorb_offset_of_laid laid, stop_eq]
        exact .fragment shows found fills
    | false =>
        have nothing := chunkLines_of_short c.offset found (length_eq.symm ▸ fills)
        have same : (c.absorb ⟨file.bytes.slice c.offset stop, c.offset⟩).offset = c.offset := by
          simp [absorb, nothing]
        rw [same]
        exact .stays

/-- A window that gives nothing leaves the cursor exhausted. -/
theorem absorb_exhausted (shows : file.Shows c.offset c.config.chunkSize stop)
    (nothing : (c.absorb ⟨file.bytes.slice c.offset stop, c.offset⟩).buffer = []) :
    (c.absorb ⟨file.bytes.slice c.offset stop, c.offset⟩).Exhausted file := by
  obtain ⟨_, no_lines⟩ := List.append_eq_nil_iff.mp nothing
  obtain ⟨free, short⟩ := chunkLines_eq_nil_iff.mp no_lines
  have same : (c.absorb ⟨file.bytes.slice c.offset stop, c.offset⟩).offset = c.offset := by
    simp [absorb, no_lines]
  -- A window that is not full reaches the end.
  rw [shows.length_slice] at short
  have reaches : stop = file.size := by
    rcases shows.whole with reaches | fills
    · exact reaches
    · rw [fills] at short
      cases short
  rw [reaches, Bytes.slice_eq_drop c.offset (Nat.le_of_eq file.length_bytes)] at free
  constructor
  · exact nothing
  · rw [same]
    exact free
  · rw [same, ← reaches]
    exact short

theorem absorb_eq_self {chunk : Chunk}
    (nothing : chunkLines chunk.data c.offset c.config.chunkSize = []) : c.absorb chunk = c := by
  simp [absorb, nothing]

/-- A read that shows no line has exhausted the file, and the cursor stays. -/
theorem absorb_eq_self_and_exhausted (shows : file.Shows c.offset c.config.chunkSize stop)
    (nothing : (c.absorb ⟨file.bytes.slice c.offset stop, c.offset⟩).buffer = []) :
    c.absorb ⟨file.bytes.slice c.offset stop, c.offset⟩ = c ∧ c.Exhausted file := by
  have exhausted := absorb_exhausted shows nothing
  have same : c.absorb ⟨file.bytes.slice c.offset stop, c.offset⟩ = c :=
    absorb_eq_self (List.append_eq_nil_iff.mp nothing).2
  rw [same] at exhausted
  exact ⟨same, exhausted⟩

/-- A read of an exhausted file shows no line. -/
theorem Exhausted.absorb_eq_self (exhausted : c.Exhausted file)
    (shows : file.Shows c.offset c.config.chunkSize stop) :
    c.absorb ⟨file.bytes.slice c.offset stop, c.offset⟩ = c := by
  apply Cursor.absorb_eq_self
  rw [chunkLines_eq_nil_iff]
  constructor
  · intro found
    exact exhausted.no_newline (List.mem_of_mem_take found)
  · have short := exhausted.short
    have stop_le := shows.stop_le
    rw [← Bool.not_eq_true, fillsWindow_iff] at short ⊢
    rw [shows.length_slice]
    omega

end

/-! ## Pulls -/

/-- The cursor reads a file that the service serves, stands where a character may begin, and has kept
track of the file from `start` on. -/
structure Served (c : Cursor) (service : Service ReadReply) (file : MemoryFile) (start : Nat)
    (lines : List Line) : Prop where
  serves : service.Serves file
  fits : file.FitsWindow c.config.chunkSize
  begins : file.Begins c.offset
  inside : start ≤ file.size
  tracks : c.Tracks file.bytes start lines

/-- What a completed pull does: the line it finds, if any, the cursor, the service and the file that
it leaves. -/
structure Takes (c : Cursor) (service : Service ReadReply) (file : MemoryFile)
    (found : Option Line) (next : Cursor) (service' : Service ReadReply) (file' : MemoryFile) :
    Prop where
  run_eq : (c.takeLine serviceEndpoint).run service = (some (.ok found, next), service')
  grows : ∃ more, file' = file.append more
  horizon_eq : service'.horizon file' = service.horizon file
  still : service.growth = [] → service'.growth = [] ∧ file' = file
  moves : Moves file' c.config.chunkSize c.offset next.offset
  final : found = none → next.limitReached = true ∨ next.Exhausted file'
  config_eq : next.config = c.config
  formatter_eq : next.formatter = c.formatter

theorem Takes.bytes_grow {c next : Cursor} {service service' : Service ReadReply}
    {file file' : MemoryFile} {found : Option Line}
    (takes : c.Takes service file found next service' file') : file.bytes <+: file'.bytes := by
  obtain ⟨more, rfl⟩ := takes.grows
  exact file.bytes_prefix_append more

namespace Served

variable {c : Cursor} {service : Service ReadReply} {file : MemoryFile} {start : Nat}
  {lines : List Line}

theorem offset_le_size (served : c.Served service file start lines) : c.offset ≤ file.size := by
  have inside : start ≤ file.bytes.length := by
    rw [MemoryFile.length_bytes]
    exact served.inside
  have bound := served.tracks.laid.stop_le_length inside
  rwa [MemoryFile.length_bytes] at bound

/-- Which service it is does not matter, as long as it serves the file. -/
theorem of_serves {service' : Service ReadReply} (served : c.Served service file start lines)
    (serves : service'.Serves file) : c.Served service' file start lines where
  serves := serves
  fits := served.fits
  begins := served.begins
  inside := served.inside
  tracks := served.tracks

/-- The read of a pull is not moved. -/
theorem read_eq (served : c.Served service file start lines) :
    ∃ stop, file.read (.bytes c.offset c.config.chunkSize) =
        ⟨file.bytes.slice c.offset stop, c.offset⟩ ∧
      file.Shows c.offset c.config.chunkSize stop :=
  MemoryFile.read_from_boundary served.serves.cap_eq served.serves.readable served.fits
    served.offset_le_size served.begins

/-- What a read shows of a file that keeps its windows on character boundaries is text. -/
theorem isText_slice (served : c.Served service file start lines)
    (aligned : file.charAligned = true) {stop : Nat}
    (shows : file.Shows c.offset c.config.chunkSize stop) :
    Utf8.IsText (file.bytes.slice c.offset stop) :=
  (served.serves.readable aligned).slice (served.begins aligned) (shows.begins aligned)
    shows.start_le

/-- There are no more lines than octets that the file will ever have. -/
theorem length_le_horizon (served : c.Served service file start lines) :
    lines.length ≤ service.horizon file := by
  have counted := served.tracks.laid.length_add_start_le
  have bound := Nat.le_trans served.offset_le_size (service.size_le_horizon file)
  rw [List.length_append] at counted
  omega

/-- An exhausted cursor has counted every terminator. -/
theorem count_newline_of_exhausted (served : c.Served service file start lines)
    (exhausted : c.Exhausted file) : (file.bytes.drop start).count newline = c.emitted := by
  have none_left : (file.bytes.drop c.offset).count newline = 0 :=
    List.count_eq_zero.mpr exhausted.no_newline
  rw [← served.tracks.written_append_drop exhausted.buffer_eq, List.count_append, none_left,
    served.tracks.count_newline_written, Nat.add_zero]

/-- The service after the read of a pull, and the file as the read has found it. -/
theorem ahead (served : c.Served service file start lines) (request : Request) :
    c.Served (service.answered request (service.ahead file)) (service.ahead file) start lines where
  serves := served.serves.answered request
  fits := served.fits
  begins := served.begins.append served.offset_le_size fun aligned =>
    served.serves.due_text aligned _
  inside := by
    rw [Service.ahead, MemoryFile.size_append]
    exact Nat.le_add_right_of_le served.inside
  tracks := served.tracks.grow (service.bytes_prefix_ahead file)

theorem dequeue (served : c.Served service file start lines) :
    c.dequeue.2.Served service file start (lines ++ Taking.lines (.ok c.dequeue.1)) where
  serves := served.serves
  fits := by
    rw [dequeue_config]
    exact served.fits
  begins := by
    rw [dequeue_offset]
    exact served.begins
  inside := served.inside
  tracks := served.tracks.dequeue

theorem absorb (served : c.Served service file start lines) {stop : Nat}
    (shows : file.Shows c.offset c.config.chunkSize stop) :
    (c.absorb ⟨file.bytes.slice c.offset stop, c.offset⟩).Served service file start lines where
  serves := served.serves
  fits := served.fits
  begins := (absorb_moves served.fits.1 shows).begins served.serves.readable served.begins
  inside := served.inside
  tracks := served.tracks.absorb (Bytes.slice_add_length c.offset stop file.bytes)

/-- A pull that has to read. -/
theorem takeLine_of_buffer_nil (served : c.Served service file start lines)
    (unlimited : c.limitReached = false) (unread : c.buffer = []) :
    ∃ found next service' file', c.Takes service file found next service' file' ∧
      next.Served service' file' start (lines ++ Taking.lines (.ok found)) := by
  have ahead := served.ahead ⟨c.file, .bytes c.offset c.config.chunkSize⟩
  obtain ⟨stop, read_eq, shows⟩ := MemoryFile.read_from_boundary ahead.serves.cap_eq
    ahead.serves.readable ahead.fits ahead.offset_le_size ahead.begins
  refine ⟨_, _, _, _, ?_, (ahead.absorb shows).dequeue⟩
  constructor
  · rw [takeLine_run_of_buffer_nil unlimited unread, RemoteFile.fetch, served.serves.read, read_eq]
    rfl
  · exact ⟨_, rfl⟩
  · exact service.horizon_answered _ file
  · intro nothing
    constructor
    · exact nothing
    · simp [Service.ahead, Service.due, nothing]
  · rw [dequeue_offset]
    exact absorb_moves served.fits.1 shows
  · intro none_found
    rw [dequeue_eq_none_iff] at none_found
    rw [dequeue_of_buffer_nil none_found]
    exact .inr (absorb_exhausted shows none_found)
  · rw [dequeue_config]
    rfl
  · rw [dequeue_formatter]
    rfl

/-- Every pull completes and keeps track of the file. -/
theorem takeLine (served : c.Served service file start lines) :
    ∃ found next service' file', c.Takes service file found next service' file' ∧
      next.Served service' file' start (lines ++ Taking.lines (.ok found)) := by
  cases limited : c.limitReached with
  | true =>
      refine ⟨none, c, service, file, ?_, ?_⟩
      · constructor
        · exact takeLine_run_of_limitReached limited service
        · exact ⟨[], (MemoryFile.append_nil file).symm⟩
        · rfl
        · intro nothing
          exact ⟨nothing, rfl⟩
        · exact .stays
        · intro _
          exact .inl limited
        · rfl
        · rfl
      · rw [show Taking.lines (.ok none) = [] from rfl, List.append_nil]
        exact served
  | false =>
      by_cases unread : c.buffer = []
      · exact served.takeLine_of_buffer_nil limited unread
      · refine ⟨_, _, _, _, ?_, served.dequeue⟩
        constructor
        · exact takeLine_run_of_buffer_ne_nil limited unread service
        · exact ⟨[], (MemoryFile.append_nil file).symm⟩
        · rfl
        · intro nothing
          exact ⟨nothing, rfl⟩
        · rw [dequeue_offset]
          exact .stays
        · intro none_found
          exact absurd ((dequeue_eq_none_iff c).mp none_found) unread
        · exact dequeue_config c
        · exact dequeue_formatter c

end Served

end Cursor

end RemoteTail

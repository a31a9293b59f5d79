import RemoteTail.Proofs.Cursor.Served
import RemoteTail.Proofs.Cursor.Start

/-!
# Blocks of plain text

A cursor that writes plain text, outside stream mode, in front of a serving
service.  `Reads` gathers what all its pulls keep.  The sequence of its blocks
ends (`Reads.blocks`), either at the line limit or because the file is exhausted.
At the limit the blocks are determined by where they begin and by their number
of terminators (`Reads.written_eq`).
-/

namespace RemoteTail

open Simulation Bytes

namespace Cursor

/-- A cursor for plain text that reads from `start` on and will find at most `bound` octets. -/
structure Reads (config : ReadConfig) (start bound : Nat) (c : Cursor)
    (service : Service ReadReply) (file : MemoryFile) (lines : List Line) : Prop where
  served : c.Served service file start lines
  within : c.WithinLimit lines
  horizon_eq : service.horizon file = bound
  config_eq : c.config = config
  formatter_eq : c.formatter = OutputFormat.text.formatter
  finite : config.stream = false

/-- The cursor reads the file that the service has, which has what every pull keeps. -/
def ReadsOn (config : ReadConfig) (start bound : Nat)
    (Kept : Service ReadReply → MemoryFile → Cursor → Prop) (c : Cursor)
    (service : Service ReadReply) (lines : List Line) : Prop :=
  ∃ file, Reads config start bound c service file lines ∧ Kept service file c

/-- The limit is reached, or the file that the service has is exhausted. -/
def Done (c : Cursor) (service : Service ReadReply) : Prop :=
  ∃ file, service.source = .memory file ∧ (c.limitReached = true ∨ c.Exhausted file)

namespace Reads

variable {config : ReadConfig} {start bound : Nat} {c : Cursor} {service : Service ReadReply}
  {file : MemoryFile} {lines : List Line}

/-- A cursor that is ready to read from a position where a character may begin. -/
theorem of_fresh {coordinates : TaskCoordinates} {name : String}
    (sound : checked coordinates name config = .ok ()) (finite : config.stream = false)
    (serves : service.Serves file) (fits : file.FitsWindow config.chunkSize)
    (inside : start ≤ file.size) (begins : file.Begins start) :
    Reads config start (service.horizon file)
      (fresh coordinates name OutputFormat.text.formatter config start) service file [] := by
  obtain ⟨some_line, positive⟩ := positive_of_validate (validate_of_checked sound)
  constructor
  · exact ⟨serves, fits, begins, inside, Tracks.initial _ rfl rfl positive⟩
  · exact .of_lt some_line
  · rfl
  · rfl
  · rfl
  · exact finite

theorem takeLine (reads : Reads config start bound c service file lines) :
    ∃ found next service' file', c.Takes service file found next service' file' ∧
      Reads config start bound next service' file' (lines ++ Taking.lines (.ok found)) := by
  obtain ⟨found, next, service', file', takes, served⟩ := reads.served.takeLine
  refine ⟨found, next, service', file', takes, ?_⟩
  constructor
  · exact served
  · apply reads.within.takeLine _ takes.run_eq
    rw [reads.config_eq]
    exact reads.finite
  · rw [takes.horizon_eq, reads.horizon_eq]
  · rw [takes.config_eq, reads.config_eq]
  · rw [takes.formatter_eq, reads.formatter_eq]
  · exact reads.finite

theorem limitReached_iff (reads : Reads config start bound c service file lines) :
    c.limitReached = true ↔ c.emitted = config.maxLines := by
  have finite : c.config.stream = false := by rw [reads.config_eq, reads.finite]
  rw [reads.within.limitReached_iff finite, reads.config_eq]

/-- The blocks up to the end of the data.  `Kept` is whatever else every pull keeps. -/
theorem blocks (Kept : Service ReadReply → MemoryFile → Cursor → Prop)
    (keeps : ∀ {c next service service' file file' found lines},
      Reads config start bound c service file lines →
        c.Takes service file found next service' file' →
          Kept service file c → Kept service' file' next)
    (reads : Reads config start bound c service file []) (kept : Kept service file c) {limit : Nat}
    (enough : bound < limit) :
    ∃ lines last service' file',
      (c.blocks serviceEndpoint limit).run service =
          (some (lines.map Line.bytes, .ended, last), service') ∧
        Reads config start bound last service' file' lines ∧ Kept service' file' last ∧
        (last.emitted = config.maxLines ∨ last.Exhausted file') := by
  have writes : ∀ {c service lines}, ReadsOn config start bound Kept c service lines →
      ∀ line, c.formatter.line line = .ok line.bytes := by
    rintro c service lines ⟨file, reads, _⟩ line
    rw [reads.formatter_eq]
    rfl
  have step : ∀ {c service lines}, ReadsOn config start bound Kept c service lines →
      ∃ found next service', (c.takeLine serviceEndpoint).run service =
          (some (.ok found, next), service') ∧
        ReadsOn config start bound Kept next service' (lines ++ Taking.lines (.ok found)) ∧
        (found = none → Done next service') := by
    rintro c service lines ⟨file, reads, kept⟩
    obtain ⟨found, next, service', file', takes, reads'⟩ := reads.takeLine
    refine ⟨found, next, service', takes.run_eq, ⟨file', reads', keeps reads takes kept⟩, ?_⟩
    intro nothing
    exact ⟨file', reads'.served.serves.source_eq, takes.final nothing⟩
  have bounded : ∀ {c service lines}, ReadsOn config start bound Kept c service lines →
      lines.length ≤ bound := by
    rintro c service lines ⟨file, reads, _⟩
    rw [← reads.horizon_eq]
    exact reads.served.length_le_horizon
  have fuel : bound < ([] : List Line).length + limit := by simpa using enough
  obtain ⟨lines, last, service', run_eq, ⟨file', ended, kept'⟩, done⟩ :=
    @blocks_run _ serviceEndpoint (ReadsOn config start bound Kept) Done Line.bytes bound limit
      writes step bounded c service [] ⟨file, reads, kept⟩ fuel
  obtain ⟨file'', source, final⟩ := done
  rw [ended.served.serves.source_eq] at source
  obtain rfl : file' = file'' := Simulation.Source.memory.inj source
  refine ⟨lines, last, service', file', run_eq, ended, kept', ?_⟩
  rcases final with limited | exhausted
  · exact .inl (ended.limitReached_iff.mp limited)
  · exact .inr exhausted

/-! ## What has been written -/

/-- At the limit, what has been written is determined: it begins at the start, ends with a line and
has as many terminators as the limit says. -/
theorem written_eq (reads : Reads config start bound c service file lines)
    (reached : c.emitted = config.maxLines) {expected : Bytes}
    (present : expected <+: file.bytes.drop start) (ends : expected.EndsLine)
    (counted : expected.count newline = config.maxLines) :
    lines.flatMap Line.bytes = expected := by
  have reached_here : c.emitted = c.config.maxLines := by rw [reads.config_eq, reached]
  apply eq_of_prefix_of_count_newline_eq reads.served.tracks.written_prefix present
  · exact endsLine_of_getLast?_eq (reads.within.getLast?_written reached_here)
  · exact ends
  · rw [reads.served.tracks.count_newline_written, reached, counted]

/-- If the content has the lines that are wanted, the limit is reached. -/
theorem reached_of_le_count (reads : Reads config start bound c service file lines)
    (final : c.emitted = config.maxLines ∨ c.Exhausted file)
    (enough : config.maxLines ≤ (file.bytes.drop start).count newline) :
    c.emitted = config.maxLines := by
  rcases final with reached | exhausted
  · exact reached
  · have counted := reads.served.count_newline_of_exhausted exhausted
    have emitted_le := reads.within.emitted_le
    rw [reads.config_eq] at emitted_le
    omega

/-- No more lines are counted than the content has. -/
theorem emitted_le_count (reads : Reads config start bound c service file lines) :
    c.emitted ≤ (file.bytes.drop start).count newline := by
  rw [← reads.served.tracks.count_newline_written]
  exact reads.served.tracks.written_prefix.sublist.count_le newline

end Reads

end Cursor

end RemoteTail

import RemoteTail.Proofs.Cursor.Incidents

/-!
# Following a plain file

A cursor in stream mode follows a file: it hands out what is appended, and never
reaches a limit.  How much of an unfinished line it has handed out at some moment
depends on when it has been pulled and on its windows.

Once it is pulled to the end of the data, however, it has handed out every octet
up to the last terminator, counted every terminator, and will find nothing until
the file grows (`Watch.CatchesUp`).  So what has happened before does not matter:
two cursors that have seen the same file grow by the same octets agree.
-/

namespace RemoteTail

open Simulation

namespace Cursor

variable {c : Cursor} {service : Service ReadReply} {file : MemoryFile} {start : Nat}
  {lines : List Line}

namespace Served

/-- In front of an exhausted file that does not grow, a taking finds nothing and leaves the
cursor. -/
theorem takeLine_of_exhausted (served : c.Served service file start lines)
    (still : service.growth = []) (unlimited : c.limitReached = false)
    (exhausted : c.Exhausted file) :
    ∃ service', (c.takeLine serviceEndpoint).run service = (some (.ok none, c), service') ∧
      c.Served service' file start lines ∧ service'.growth = [] := by
  have same := Service.ahead_eq_self still file
  have called := served.ahead ⟨c.file, .bytes c.offset c.config.chunkSize⟩
  rw [same] at called
  refine ⟨_, ?_, called, still⟩
  obtain ⟨stop, read_eq, shows⟩ := served.read_eq
  rw [takeLine_run_of_buffer_nil unlimited exhausted.buffer_eq, RemoteFile.fetch,
    served.serves.read, same, read_eq, Option.map_some, settle, exhausted.absorb_eq_self shows,
    dequeue_of_buffer_nil exhausted.buffer_eq]

/-- However often it is pulled, an exhausted cursor finds nothing and stays as it is. -/
theorem idle (served : c.Served service file start lines) (still : service.growth = [])
    (unlimited : c.limitReached = false) (exhausted : c.Exhausted file) (count : Nat)
    (handed : List Line) :
    Reading.results serviceEndpoint (List.replicate count (.pull .never)) ⟨c, service, handed⟩ =
        List.replicate count (some (.ok none)) ∧
      (Reading.after serviceEndpoint (List.replicate count (.pull .never))
        ⟨c, service, handed⟩).cursor = c := by
  induction count generalizing service handed with
  | zero => exact ⟨rfl, rfl⟩
  | succ count ih =>
      obtain ⟨service', taken, served', still'⟩ :=
        served.takeLine_of_exhausted still unlimited exhausted
      obtain ⟨given_eq, next_eq⟩ := @Reading.pull_of_taken _ _ _ _ _ _ handed _ .never (by decide) taken
      obtain ⟨results_eq, cursor_eq⟩ := ih served' still' (handed ++ Taking.lines (.ok none))
      rw [List.replicate_succ, List.replicate_succ, Reading.results_cons, Reading.after_cons,
        given_eq, next_eq, results_eq]
      exact ⟨rfl, cursor_eq⟩

end Served

/-! ## Pulling to the end of the data -/

/-- A cursor for plain text in front of a file that does not grow. -/
structure Follows (config : ReadConfig) (file : MemoryFile) (start : Nat) (c : Cursor)
    (service : Service ReadReply) (lines : List Line) : Prop where
  served : c.Served service file start lines
  still : service.growth = []
  config_eq : c.config = config
  formatter_eq : c.formatter = OutputFormat.text.formatter

namespace Follows

variable {config : ReadConfig}

theorem limitReached_eq (follows : Follows config file start c service lines)
    (stream : config.stream = true) : c.limitReached = false := by
  rw [limitReached, follows.config_eq, stream]
  rfl

theorem takeLine (follows : Follows config file start c service lines)
    (stream : config.stream = true) :
    ∃ found next service',
      (c.takeLine serviceEndpoint).run service = (some (.ok found, next), service') ∧
        Follows config file start next service' (lines ++ Taking.lines (.ok found)) ∧
        (found = none → next.Exhausted file) := by
  obtain ⟨found, next, service', file', takes, served⟩ := follows.served.takeLine
  obtain ⟨still, rfl⟩ := takes.still follows.still
  have kept : Follows config file' start next service' (lines ++ Taking.lines (.ok found)) := by
    constructor
    · exact served
    · exact still
    · rw [takes.config_eq, follows.config_eq]
    · rw [takes.formatter_eq, follows.formatter_eq]
  refine ⟨found, next, service', takes.run_eq, kept, ?_⟩
  intro nothing
  apply (takes.final nothing).resolve_left
  rw [kept.limitReached_eq stream]
  exact Bool.false_ne_true

/-- Pulling ends within one pull more than the file has octets, with the file exhausted. -/
theorem blocks (follows : Follows config file start c service lines)
    (stream : config.stream = true) :
    ∃ more last service',
      (c.blocks serviceEndpoint (file.size + 1)).run service =
          (some (more.map Line.bytes, .ended, last), service') ∧
        Follows config file start last service' (lines ++ more) ∧ last.Exhausted file := by
  have writes : ∀ {c service lines}, Follows config file start c service lines →
      ∀ line, c.formatter.line line = .ok line.bytes := by
    intro c service lines follows line
    rw [follows.formatter_eq]
    rfl
  have bounded : ∀ {c service lines}, Follows config file start c service lines →
      lines.length ≤ file.size := by
    intro c service lines follows
    have bound := follows.served.length_le_horizon
    simpa [Service.horizon, follows.still] using bound
  exact @blocks_run _ serviceEndpoint (Follows config file start) (fun last _ => last.Exhausted file)
    Line.bytes file.size (file.size + 1) writes (fun follows => follows.takeLine stream) bounded
    c service lines follows (by omega)

end Follows

end Cursor

/-! ## Catching up -/

namespace Watch

variable {file : MemoryFile}

/-- Pulled to the end of the data while the service answers, the cursor has handed out the text up to
the last terminator and perhaps a part of the rest, has counted every terminator, and finds nothing
more. -/
structure CatchesUp (watch : Watch file) (text rest : Bytes) (blocks : List Bytes) (last : Cursor)
    (service : Service ReadReply) : Prop where
  run_eq : (watch.reading.cursor.blocks serviceEndpoint ((text ++ rest).length + 1)).run
    (watch.reading.world.treating .answered) = (some (blocks, .ended, last), service)
  written : ∃ more, (watch.blocks ++ blocks).flatten = text ++ more ∧ more <+: rest
  emitted_eq : last.emitted = text.count newline
  idle : ∀ count handed,
    Reading.results serviceEndpoint (List.replicate count (.pull .never)) ⟨last, service, handed⟩ =
        List.replicate count (some (.ok none)) ∧
      (Reading.after serviceEndpoint (List.replicate count (.pull .never))
        ⟨last, service, handed⟩).cursor = last

/-- Whatever has happened, a cursor that follows a plain file catches up with it. -/
theorem catchesUp (watch : Watch file) (uncapped : file.cap = none)
    (plain : file.charAligned = false) (stream : watch.config.stream = true) {text rest : Bytes}
    (content_eq : file.bytes ++ appended watch.incidents = text ++ rest) (ends : text.EndsLine)
    (unfinished : newline ∉ rest) :
    ∃ blocks last service, watch.CatchesUp text rest blocks last service := by
  have windows : ∀ {claim : Prop}, file.charAligned = true → claim := by
    intro claim aligned
    rw [plain] at aligned
    cases aligned
  have attends := watch.attends uncapped windows ⟨watch.positive.2, windows⟩ windows
  have bytes_eq : (file.append (appended watch.incidents)).bytes = text ++ rest := by
    rw [MemoryFile.bytes_append, content_eq]
  -- From here on the service answers, and the file stays as it is.
  have serves := attends.steady.serves uncapped attends.served.serves.readable
  have still : (watch.reading.world.treating .answered).growth = [] :=
    (attends.steady.treating .answered).growth_eq
  have follows : Cursor.Follows watch.config (file.append (appended watch.incidents)) 0
      watch.reading.cursor (watch.reading.world.treating .answered) watch.reading.lines :=
    ⟨attends.served.of_serves serves, still, watch.setup.2, watch.setup.1⟩
  obtain ⟨more, last, service, run_eq, done, exhausted⟩ := follows.blocks stream
  rw [← MemoryFile.length_bytes, bytes_eq] at run_eq
  have tracks := done.served.tracks
  have no_newline := exhausted.no_newline
  rw [bytes_eq] at tracks no_newline
  have reached := ends.length_le no_newline
  refine ⟨more.map Line.bytes, last, service, run_eq, ?_, ?_, ?_⟩
  · refine ⟨rest.take (last.offset - text.length), ?_, List.take_prefix ..⟩
    rw [watch.blocks_eq, ← List.map_append, ← List.flatMap_def,
      tracks.written_of_buffer_nil exhausted.buffer_eq, Bytes.slice_zero, List.take_append,
      List.take_of_length_le reached]
  · have counted := done.served.count_newline_of_exhausted exhausted
    rw [bytes_eq, List.drop_zero, List.count_append, List.count_eq_zero.mpr unfinished] at counted
    exact counted.symm
  · intro count handed
    exact done.served.idle done.still (done.limitReached_eq stream) exhausted count handed

/-- Following is independent of when one polls.  Two cursors that have been started in stream mode on
plain files with the same content, with whatever windows and limits, catch up with the same text if
the files have grown by the same octets, whichever pulls have been made meanwhile. -/
theorem catchesUp_alike {content : Bytes} {first second : Watch (.ofBytes content)}
    (firstStream : first.config.stream = true) (secondStream : second.config.stream = true)
    (same : appended first.incidents = appended second.incidents) :
    ∃ text rest, content ++ appended first.incidents = text ++ rest ∧ text.EndsLine ∧
      newline ∉ rest ∧
      (∃ blocks last service, first.CatchesUp text rest blocks last service) ∧
      ∃ blocks last service, second.CatchesUp text rest blocks last service := by
  have content_eq := (join_cut (content ++ appended first.incidents)).symm
  have ends := endsLine_join (cut (content ++ appended first.incidents)).1
  have unfinished := newline_not_mem_cut_rest (content ++ appended first.incidents)
  refine ⟨_, _, content_eq, ends, unfinished, ?_, ?_⟩
  · exact first.catchesUp rfl rfl firstStream content_eq ends unfinished
  · apply second.catchesUp rfl rfl secondStream _ ends unfinished
    rw [← same]
    exact content_eq

/-- A cursor with windows of one octet that is pulled early and late, with a refused and an abandoned
pull, and one with windows of five octets that is not pulled until the end. -/
theorem catchesUp_alike_of_early_pulls :
    ∃ first second : Watch (.ofBytes [0x61, 0x62, 0x0A, 0x63]),
      first.blocks = [[0x61], [0x62], [0x0A], [0x63]] ∧ second.blocks = [] ∧
      ∃ text rest : Bytes, [0x61, 0x62, 0x0A, 0x63, 0x64, 0x0A, 0x65] = text ++ rest ∧ text.EndsLine ∧
        newline ∉ rest ∧
        (∃ blocks last service, first.CatchesUp text rest blocks last service) ∧
        ∃ blocks last service, second.CatchesUp text rest blocks last service := by
  let coordinates : TaskCoordinates := ⟨"agent", "framework", "executor", "container", none⟩
  let first : Watch (.ofBytes [0x61, 0x62, 0x0A, 0x63]) := @ofService _ coordinates "stdout"
    { stream := true, maxLines := 1, chunkSize := 1 } rfl rfl
    [.pull .answered .never, .pull (.refused .unavailable) .never, .pull .answered .waiting,
      .pull .answered .never, .append [0x64], .pull .ignored .waiting, .pull .answered .never,
      .append [0x0A, 0x65]]
  let second : Watch (.ofBytes [0x61, 0x62, 0x0A, 0x63]) := @ofService _ coordinates "stdout"
    { stream := true, chunkSize := 5 } rfl rfl [.append [0x64, 0x0A], .append [0x65]]
  refine ⟨first, second, ?_, ?_, ?_⟩
  · decide +kernel
  · decide +kernel
  · exact @catchesUp_alike _ first second rfl rfl (by decide +kernel)

end Watch

end RemoteTail

import RemoteTail.Proofs.Cursor.Course
import RemoteTail.Proofs.Cursor.Served
import RemoteTail.Proofs.Cursor.Start
import RemoteTail.Proofs.Line.Texts
import RemoteTail.Proofs.Simulation.Steady

/-!
# Readers of a steady file

The file of a steady service grows, and pulls are made that are answered, refused
or ignored, and that may be given up: these are the incidents in the life of a
reader.  `Attends` is what they all keep.  The cursor has kept track of the file
since its start, and, where windows are kept on character boundaries, every line
that is known is text.

A pull that finds nothing has either reached the line limit or exhausted the file
as it is at that moment (`Attends.pull`).
-/

namespace RemoteTail

open Simulation

/-! ## Incidents -/

/-- What happens in the life of a reader. -/
inductive Incident where
  /-- The file grows. -/
  | append (more : Bytes)
  /-- A pull, which may be told to give up, while the service treats its calls in some way. -/
  | pull (treatment : Treatment) (cancellation : Cursor.Cancellation)

namespace Incident

/-- The events that an incident consists of. -/
def events : Incident → List (Event (Service ReadReply))
  | .append more => [.change (·.changeFile (·.append more))]
  | .pull treatment cancellation => [.change (·.treating treatment), .pull cancellation]

/-- What the file grows by. -/
def growth : Incident → Bytes
  | .append more => more
  | .pull _ _ => []

end Incident

/-- The course of events of some incidents. -/
def course (incidents : List Incident) : List (Event (Service ReadReply)) :=
  incidents.flatMap Incident.events

/-- All that the file grows by, however the growth is divided and whatever comes between. -/
def appended (incidents : List Incident) : Bytes :=
  incidents.flatMap Incident.growth

/-! ## What all incidents keep -/

namespace Reading

/-- The reader of a steady file keeps track of it, whether or not its calls are answered.  If windows
are kept on character boundaries, the lines that are known are text. -/
structure Attends (reading : Reading (Service ReadReply)) (file : MemoryFile) (start : Nat) :
    Prop where
  steady : reading.world.Steady file
  served : reading.cursor.Served { source := .memory file } file start reading.lines
  legible : file.charAligned = true → ∀ line ∈ reading.known, Utf8.IsText line.bytes

namespace Attends

variable {c next : Cursor} {world world' : Service ReadReply} {lines : List Line}
  {file : MemoryFile} {start stop : Nat} {taking : Taking} {reading : Reading (Service ReadReply)}

theorem of_steady (attends : Attends ⟨c, world, lines⟩ file start) (steady : world'.Steady file) :
    Attends ⟨c, world', lines⟩ file start where
  steady := steady
  served := attends.served
  legible := attends.legible

theorem append (attends : Attends ⟨c, world, lines⟩ file start) {more : Bytes}
    (moreText : file.charAligned = true → Utf8.IsText more) :
    Attends ⟨c, world.changeFile (·.append more), lines⟩ (file.append more) start where
  steady := attends.steady.append more
  served := by
    have served := attends.served
    have readable : (file.append more).Readable := by
      intro aligned
      rw [MemoryFile.bytes_append]
      exact (served.serves.readable aligned).append (moreText aligned)
    constructor
    · exact Service.serves_memory served.serves.cap_eq readable
    · exact served.fits
    · exact served.begins.append served.offset_le_size moreText
    · rw [MemoryFile.size_append]
      exact Nat.le_add_right_of_le served.inside
    · exact served.tracks.grow (file.bytes_prefix_append more)
  legible := attends.legible

theorem dequeue (attends : Attends ⟨c, world, lines⟩ file start) :
    Attends ⟨c.dequeue.2, world, lines ++ Taking.lines (.ok c.dequeue.1)⟩ file start where
  steady := attends.steady
  served := attends.served.dequeue
  legible := by
    intro aligned line member
    rw [known, List.append_assoc, Cursor.lines_dequeue_append] at member
    exact attends.legible aligned line member

theorem absorb (attends : Attends ⟨c, world, lines⟩ file start)
    (shows : file.Shows c.offset c.config.chunkSize stop) :
    Attends ⟨c.absorb ⟨file.bytes.slice c.offset stop, c.offset⟩, world, lines⟩ file start where
  steady := attends.steady
  served := attends.served.absorb shows
  legible := by
    intro aligned line member
    rw [known, Cursor.absorb, ← List.append_assoc] at member
    rcases List.mem_append.mp member with before | found
    · exact attends.legible aligned line before
    · exact Cursor.isText_of_mem_chunkLines (attends.served.isText_slice aligned shows) found

/-- A complete taking keeps track of the file.  If it finds nothing, it has left the cursor as it was,
at its limit or in front of an exhausted file. -/
theorem taken (attends : Attends ⟨c, world, lines⟩ file start)
    (taken : (c.takeLine serviceEndpoint).run world = (some (taking, next), world')) :
    Attends ⟨next, world', lines ++ taking.lines⟩ file start ∧
      (taking = .ok none → next = c ∧ (c.limitReached = true ∨ c.Exhausted file)) := by
  rcases Cursor.takeLine_cases taken with
    ⟨limited, rfl, rfl, rfl⟩ | ⟨_, _, reply, answered, rfl, rfl⟩ | ⟨_, stored, rfl, rfl, rfl⟩
  · constructor
    · rw [show Taking.lines (.ok none) = [] from rfl, List.append_nil]
      exact attends
    · intro _
      exact ⟨rfl, .inl limited⟩
  · rw [RemoteFile.fetch, attends.steady.read] at answered
    obtain ⟨reply_eq, rfl⟩ := Prod.mk.inj answered
    have called := attends.of_steady (attends.steady.called
      ⟨c.file, .bytes c.offset c.config.chunkSize⟩)
    -- Of the treatments, only an answer shows anything of the file.
    cases treatment : world.treatment with
    | answered =>
        rw [treatment] at reply_eq
        obtain rfl := Option.some.inj reply_eq
        obtain ⟨stop, read_eq, shows⟩ := attends.served.read_eq
        rw [read_eq]
        constructor
        · exact (called.absorb shows).dequeue
        · intro nothing
          have empty := (Cursor.dequeue_eq_none_iff _).mp (Except.ok.inj nothing)
          obtain ⟨same, exhausted⟩ := Cursor.absorb_eq_self_and_exhausted shows empty
          constructor
          · rw [Cursor.settle, Cursor.dequeue_of_buffer_nil empty, same]
          · exact .inr exhausted
    | refused status =>
        rw [treatment] at reply_eq
        obtain rfl := Option.some.inj reply_eq
        constructor
        · exact (List.append_nil lines).symm ▸ called
        · intro nothing
          cases nothing
    | ignored =>
        rw [treatment] at reply_eq
        cases reply_eq
  · constructor
    · exact attends.dequeue
    · intro nothing
      have empty := (Cursor.dequeue_eq_none_iff c).mp (Except.ok.inj nothing)
      exact absurd empty stored

/-- A taking that does not come to its end has called the service at most. -/
theorem outstanding (attends : Attends ⟨c, world, lines⟩ file start)
    (outstanding : (c.takeLine serviceEndpoint).run world = (none, world')) :
    Attends ⟨c, world', lines⟩ file start := by
  apply attends.of_steady
  cases limited : c.limitReached with
  | true =>
      rw [Cursor.takeLine_run_of_limitReached limited] at outstanding
      cases outstanding
  | false =>
      by_cases unread : c.buffer = []
      · rw [Cursor.takeLine_run_of_buffer_nil limited unread, RemoteFile.fetch,
          attends.steady.read] at outstanding
        obtain ⟨_, rfl⟩ := Prod.mk.inj outstanding
        exact attends.steady.called _
      · rw [Cursor.takeLine_run_of_buffer_ne_nil limited unread] at outstanding
        cases outstanding

/-- A pull keeps track of the file, whatever comes of it.  If it finds nothing, it has left the cursor
as it was, at its limit or in front of an exhausted file. -/
theorem pull (attends : reading.Attends file start) (cancellation : Cursor.Cancellation) :
    (reading.next serviceEndpoint (.pull cancellation)).Attends file start ∧
      (reading.given serviceEndpoint (.pull cancellation) = [some (.ok none)] →
        (reading.next serviceEndpoint (.pull cancellation)).cursor = reading.cursor ∧
          (reading.cursor.limitReached = true ∨ reading.cursor.Exhausted file)) := by
  rcases pull_cases serviceEndpoint reading cancellation with
    ⟨taking, cursor, world, taken, given_eq, next_eq⟩ | ⟨world, waits, given_eq, next_eq⟩
  · obtain ⟨kept, final⟩ := attends.taken taken
    rw [next_eq, given_eq]
    constructor
    · exact kept
    · intro nothing
      apply final
      simpa [Cursor.written_eq_ok_none_iff] using nothing
  · rw [next_eq, given_eq]
    constructor
    · rcases waits with rfl | waiting
      · exact attends
      · exact attends.outstanding waiting
    · intro nothing
      cases cancellation <;> cases nothing

/-- Every incident keeps track of the file as it is afterwards. -/
theorem incident (attends : reading.Attends file start) (incident : Incident)
    (growthText : file.charAligned = true → Utf8.IsText incident.growth) :
    (after serviceEndpoint incident.events reading).Attends (file.append incident.growth)
      start := by
  cases incident with
  | append more => exact attends.append growthText
  | pull treatment cancellation =>
      have treated := attends.of_steady (attends.steady.treating treatment)
      rw [Incident.growth, MemoryFile.append_nil]
      exact (treated.pull cancellation).1

theorem course {incidents : List Incident} (attends : reading.Attends file start)
    (texts : file.charAligned = true → ∀ incident ∈ incidents, Utf8.IsText incident.growth) :
    (after serviceEndpoint (course incidents) reading).Attends (file.append (appended incidents))
      start := by
  induction incidents generalizing reading file with
  | nil =>
      rw [appended, List.flatMap_nil, MemoryFile.append_nil]
      exact attends
  | cons incident incidents ih =>
      rw [RemoteTail.course, appended, List.flatMap_cons, List.flatMap_cons, after_append,
        ← MemoryFile.append_append]
      apply ih
      · exact attends.incident incident fun aligned => texts aligned incident List.mem_cons_self
      · intro aligned later member
        exact texts aligned later (List.mem_cons_of_mem incident member)

end Attends

end Reading

/-! ## Watches -/

/-- A cursor for plain text that has been started at the top of the file of a steady service, and
what happens afterwards. -/
structure Watch (file : MemoryFile) where
  /-- Where the sandbox is. -/
  coordinates : TaskCoordinates
  /-- The name of the file in the sandbox. -/
  name : String
  /-- How the file is read. -/
  config : ReadConfig
  /-- The service before the start. -/
  service : Service ReadReply
  /-- The cursor that has been started. -/
  cursor : Cursor
  /-- The service after the start. -/
  begun : Service ReadReply
  /-- What happens afterwards. -/
  incidents : List Incident
  steady : service.Steady file
  top : config.direction = .topToBottom
  started : (Cursor.start serviceEndpoint coordinates name OutputFormat.text.formatter config).run
    service = (some (.ok cursor), begun)

namespace Watch

variable {file : MemoryFile}

/-- A watch on a service that has only its file. -/
def ofService (file : MemoryFile) {coordinates : TaskCoordinates} {name : String}
    {config : ReadConfig} (sound : Cursor.checked coordinates name config = .ok ())
    (top : config.direction = .topToBottom) (incidents : List Incident) : Watch file where
  coordinates := coordinates
  name := name
  config := config
  service := { source := .memory file }
  cursor := Cursor.fresh coordinates name OutputFormat.text.formatter config 0
  begun := { source := .memory file }
  incidents := incidents
  steady := ⟨rfl, rfl, rfl⟩
  top := top
  started := Cursor.start_run_topToBottom sound top _

/-- The reading before anything has happened. -/
def beginning (watch : Watch file) : Reading (Service ReadReply) :=
  ⟨watch.cursor, watch.begun, []⟩

/-- The reading after the incidents. -/
def reading (watch : Watch file) : Reading (Service ReadReply) :=
  Reading.after serviceEndpoint (course watch.incidents) watch.beginning

/-- The blocks that have been handed out during the incidents. -/
def blocks (watch : Watch file) : List Bytes :=
  Reading.blocks (Reading.results serviceEndpoint (course watch.incidents) watch.beginning)

/-- The start has passed its checks and has made no read. -/
theorem begun_eq (watch : Watch file) :
    Cursor.checked watch.coordinates watch.name watch.config = .ok () ∧
      watch.cursor = Cursor.fresh watch.coordinates watch.name OutputFormat.text.formatter
        watch.config 0 ∧
      watch.begun = watch.service := by
  have sound := (Cursor.start_cases watch.started).1
  have started := watch.started
  rw [Cursor.start_run_topToBottom sound watch.top] at started
  obtain ⟨cursor_eq, begun_eq⟩ := Prod.mk.inj started
  exact ⟨sound, (Except.ok.inj (Option.some.inj cursor_eq)).symm, begun_eq.symm⟩

theorem positive (watch : Watch file) : 0 < watch.config.maxLines ∧ 0 < watch.config.chunkSize :=
  Cursor.positive_of_validate (Cursor.validate_of_checked watch.begun_eq.1)

theorem setup (watch : Watch file) :
    watch.reading.cursor.formatter = OutputFormat.text.formatter ∧
      watch.reading.cursor.config = watch.config := by
  obtain ⟨_, formatter_eq, config_eq⟩ := Reading.after_setup serviceEndpoint
    (course watch.incidents) watch.beginning
  rw [reading, formatter_eq, config_eq, beginning, watch.begun_eq.2.1]
  exact ⟨rfl, rfl⟩

/-- The blocks are the lines that have been handed out. -/
theorem blocks_eq (watch : Watch file) : watch.blocks = watch.reading.lines.map Line.bytes := by
  have writes : ∀ line, watch.cursor.formatter.line line = .ok line.bytes := by
    intro line
    rw [watch.begun_eq.2.1]
    rfl
  exact (@Reading.map_lines_after _ serviceEndpoint Line.bytes watch.beginning writes
    (course watch.incidents)).symm

/-- The cursor keeps track of the file from its top on. -/
theorem attends (watch : Watch file) (uncapped : file.cap = none) (readable : file.Readable)
    (fits : file.FitsWindow watch.config.chunkSize)
    (texts : file.charAligned = true → ∀ incident ∈ watch.incidents,
      Utf8.IsText incident.growth) :
    watch.reading.Attends (file.append (appended watch.incidents)) 0 := by
  obtain ⟨_, cursor_eq, begun_eq⟩ := watch.begun_eq
  apply Reading.Attends.course _ texts
  rw [beginning, cursor_eq, begun_eq]
  constructor
  · exact watch.steady
  · constructor
    · exact Service.serves_memory uncapped readable
    · exact fits
    · exact MemoryFile.begins_zero readable
    · exact Nat.zero_le _
    · exact Cursor.Tracks.initial _ rfl rfl watch.positive.2
  · intro _ line member
    cases member

end Watch

end RemoteTail

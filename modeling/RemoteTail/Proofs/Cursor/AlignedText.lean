import RemoteTail.Proofs.Cursor.Incidents

/-!
# Reading text with whole characters

An endpoint that keeps its windows on character boundaries shortens a window by
three octets at most.  So a window of seven octets or more that has been
shortened is longer than three octets and is still told from the end of the file,
and the position of the next read stays on a boundary (`Watch.IsLegible`).

A narrower window may be shortened to three octets or less.  It is then taken for
the end of the file, and the cursor never gets past it (`narrowFile`).
-/

namespace RemoteTail

open Simulation

namespace Watch

variable {file : MemoryFile}

/-- What has been handed out is text and a beginning of the content, the position of the next read is
a character boundary, and short of the line limit a pull finds nothing only if no terminator is
left. -/
structure IsLegible (watch : Watch file) (content : Bytes) : Prop where
  inside : watch.reading.cursor.offset ≤ content.length
  boundary : Utf8.IsBoundary content watch.reading.cursor.offset
  blocks_text : ∀ block ∈ watch.blocks, Utf8.IsText block
  blocks_prefix : watch.blocks.flatten <+: content
  nothing_left : ∀ treatment cancellation, watch.reading.cursor.limitReached = false →
    Reading.results serviceEndpoint (Incident.pull treatment cancellation).events watch.reading =
        [some (.ok none)] →
      (Reading.after serviceEndpoint (Incident.pull treatment cancellation).events
          watch.reading).cursor = watch.reading.cursor ∧
        newline ∉ content.drop watch.reading.cursor.offset

/-- With windows of seven octets or more, reading of a text that grows by texts is legible at every
moment. -/
theorem isLegible (watch : Watch file) (aligned : file.charAligned = true)
    (uncapped : file.cap = none) (isText : Utf8.IsText file.bytes)
    (wide : 7 ≤ watch.config.chunkSize)
    (texts : ∀ incident ∈ watch.incidents, Utf8.IsText incident.growth) :
    watch.IsLegible (file.bytes ++ appended watch.incidents) := by
  have attends := watch.attends uncapped (fun _ => isText) ⟨watch.positive.2, fun _ => wide⟩
    fun _ => texts
  have served := attends.served
  have tracks := served.tracks
  have bytes_eq : (file.append (appended watch.incidents)).bytes =
      file.bytes ++ appended watch.incidents := MemoryFile.bytes_append ..
  constructor
  · rw [← bytes_eq, MemoryFile.length_bytes]
    exact served.offset_le_size
  · rw [← bytes_eq]
    exact served.begins aligned
  · intro block member
    rw [watch.blocks_eq] at member
    obtain ⟨line, handed, rfl⟩ := List.mem_map.mp member
    exact attends.legible aligned line (List.mem_append_left _ handed)
  · rw [watch.blocks_eq, ← List.flatMap_def, ← bytes_eq]
    exact tracks.written_prefix
  · intro treatment cancellation unlimited nothing
    have treated := attends.of_steady (attends.steady.treating treatment)
    obtain ⟨same, final⟩ := (treated.pull cancellation).2 nothing
    have exhausted := final.resolve_left (ne_true_of_eq_false unlimited)
    rw [← bytes_eq]
    exact ⟨same, exhausted.no_newline⟩

end Watch

/-! ## Narrow windows -/

/-- Three octets less than the window, then a character of four octets, then a terminator. -/
def narrowText (chunkSize : Nat) : List Char :=
  List.replicate (chunkSize - 3) 'a' ++ [Char.ofNat 0x1F600, '\n']

/-- A file on which narrow windows are shortened too much. -/
def narrowFile (chunkSize : Nat) : MemoryFile where
  content := (Bytes.ofChars (narrowText chunkSize)).toArray
  charAligned := true

namespace narrowFile

variable {chunkSize : Nat}

theorem isText_bytes (chunkSize : Nat) : Utf8.IsText (narrowFile chunkSize).bytes :=
  ⟨narrowText chunkSize, rfl⟩

theorem getLast?_bytes (chunkSize : Nat) :
    (narrowFile chunkSize).bytes.getLast? = some newline := by
  have ends : (narrowFile chunkSize).bytes =
      Bytes.ofChars (List.replicate (chunkSize - 3) 'a' ++ [Char.ofNat 0x1F600]) ++ [newline] := by
    rw [show [newline] = Bytes.ofChars ['\n'] from rfl, ← Bytes.ofChars_append, List.append_assoc]
    rfl
  rw [ends, List.getLast?_concat]

/-- The first window shows no line, and is not taken for a full one. -/
theorem chunkLines_read : ∀ chunkSize < 7, 0 < chunkSize →
    Cursor.chunkLines ((narrowFile chunkSize).read (.bytes 0 chunkSize)).data 0 chunkSize = [] := by
  decide +kernel

/-- Narrow windows are sound, so that there is a watch with each of them. -/
theorem exists_watch : ∀ chunkSize < 7, 0 < chunkSize →
    ∃ watch : Watch (narrowFile chunkSize), watch.config.chunkSize = chunkSize := by
  have sound : ∀ chunkSize < 7, 0 < chunkSize →
      Cursor.checked ⟨"agent", "framework", "executor", "container", none⟩ "stdout"
        { stream := true, chunkSize } = .ok () := by
    decide +kernel
  intro chunkSize narrow positive
  exact ⟨.ofService _ (sound chunkSize narrow positive) rfl [], rfl⟩

/-- The first pull finds nothing and leaves the cursor at the top. -/
theorem pull_finds_nothing (watch : Watch (narrowFile chunkSize))
    (chunkSize_eq : watch.config.chunkSize = chunkSize) (narrow : chunkSize < 7) :
    Reading.results serviceEndpoint (Incident.pull .answered .never).events watch.beginning =
        [some (.ok none)] ∧
      (Reading.after serviceEndpoint (Incident.pull .answered .never).events
        watch.beginning).cursor = watch.cursor ∧
      watch.cursor.offset = 0 := by
  obtain ⟨_, cursor_eq, begun_eq⟩ := watch.begun_eq
  obtain ⟨some_line, positive⟩ := watch.positive
  have unlimited : watch.cursor.limitReached = false := by
    simp [cursor_eq, Cursor.limitReached, Cursor.fresh, Nat.ne_of_gt some_line]
  have offset_eq : watch.cursor.offset = 0 := by
    rw [cursor_eq]
    rfl
  have unread : watch.cursor.buffer = [] := by
    rw [cursor_eq]
    rfl
  have size_eq : watch.cursor.config.chunkSize = chunkSize := by
    rw [cursor_eq]
    exact chunkSize_eq
  have steady := watch.steady.treating .answered
  have unchanged : watch.cursor.absorb ((narrowFile chunkSize).read (.bytes 0 chunkSize)) =
      watch.cursor := by
    apply Cursor.absorb_eq_self
    rw [offset_eq, size_eq]
    exact chunkLines_read chunkSize narrow (chunkSize_eq ▸ positive)
  have taken := @Cursor.takeLine_run_of_buffer_nil _ _ serviceEndpoint unlimited unread
    (watch.service.treating .answered)
  rw [RemoteFile.fetch, steady.read, Service.treatment_treating, offset_eq, size_eq,
    Treatment.reply?, Option.map_some, Cursor.settle, unchanged,
    Cursor.dequeue_of_buffer_nil unread, ← begun_eq] at taken
  obtain ⟨given_eq, next_eq⟩ := @Reading.pull_of_taken _ _ _ _ _ _ [] _ .never (by decide) taken
  refine ⟨?_, ?_, offset_eq⟩
  · exact given_eq
  · exact congrArg Reading.cursor next_eq

end narrowFile

/-! ## Seven octets -/

/-- Seven octets are the least window with which text is read to its end.  With seven or more, reading
is legible whatever happens; with fewer, there is a text that ends with a line and whose first pull
already finds nothing. -/
theorem Watch.isLegible_from_seven :
    (∀ {file : MemoryFile} (watch : Watch file), file.charAligned = true → file.cap = none →
      Utf8.IsText file.bytes → 7 ≤ watch.config.chunkSize →
      (∀ incident ∈ watch.incidents, Utf8.IsText incident.growth) →
      watch.IsLegible (file.bytes ++ appended watch.incidents)) ∧
    ∀ chunkSize, 1 ≤ chunkSize → chunkSize ≤ 6 →
      ∃ file : MemoryFile, file.charAligned = true ∧ file.cap = none ∧ Utf8.IsText file.bytes ∧
        file.bytes.getLast? = some newline ∧
        (∃ watch : Watch file, watch.config.chunkSize = chunkSize) ∧
        ∀ watch : Watch file, watch.config.chunkSize = chunkSize →
          Reading.results serviceEndpoint (Incident.pull .answered .never).events
              watch.beginning = [some (.ok none)] ∧
            (Reading.after serviceEndpoint (Incident.pull .answered .never).events
              watch.beginning).cursor = watch.cursor ∧
            watch.cursor.offset = 0 := by
  constructor
  · intro file watch aligned uncapped isText wide texts
    exact watch.isLegible aligned uncapped isText wide texts
  · intro chunkSize positive narrow
    have less : chunkSize < 7 := Nat.lt_succ_of_le narrow
    refine ⟨narrowFile chunkSize, rfl, rfl, narrowFile.isText_bytes chunkSize,
      narrowFile.getLast?_bytes chunkSize, narrowFile.exists_watch chunkSize less positive, ?_⟩
    intro watch chunkSize_eq
    exact narrowFile.pull_finds_nothing watch chunkSize_eq less

/-- A text that is read in windows of seven octets, grows meanwhile and is refused once; and a window
of six octets. -/
theorem Watch.isLegible_from_seven_of_growing_text :
    (∃ watch : Watch (narrowFile 7), watch.config.chunkSize = 7 ∧
      watch.blocks = [[0x61, 0x61, 0x61, 0x61], [0xF0, 0x9F, 0x98, 0x80, 0x0A]] ∧
      watch.IsLegible ((narrowFile 7).bytes ++ Bytes.ofChars ['b', '\n'])) ∧
    ∃ (file : MemoryFile) (watch : Watch file), file.bytes.getLast? = some newline ∧
      watch.config.chunkSize = 6 ∧
      Reading.results serviceEndpoint (Incident.pull .answered .never).events watch.beginning =
        [some (.ok none)] := by
  obtain ⟨wide, narrow⟩ := Watch.isLegible_from_seven
  let watch : Watch (narrowFile 7) := @ofService _
    ⟨"agent", "framework", "executor", "container", none⟩ "stdout" { chunkSize := 7 } rfl rfl
    [.pull .answered .never, .append (Bytes.ofChars ['b', '\n']),
      .pull (.refused .unavailable) .never, .pull .answered .waiting]
  have texts : ∀ incident ∈ watch.incidents, Utf8.IsText incident.growth := by
    have nothing : Utf8.IsText [] := ⟨[], rfl⟩
    intro incident member
    rcases member with _ | ⟨_, _ | ⟨_, _ | ⟨_, _ | ⟨_, ⟨⟩⟩⟩⟩⟩
    · exact nothing
    · exact ⟨['b', '\n'], rfl⟩
    · exact nothing
    · exact nothing
  constructor
  · refine ⟨watch, rfl, ?_, ?_⟩
    · decide +kernel
    · exact wide watch rfl rfl (narrowFile.isText_bytes 7) (Nat.le_refl _) texts
  · obtain ⟨file, _, _, _, ends, ⟨small, size_eq⟩, finds⟩ := narrow 6 (by decide) (by decide)
    exact ⟨file, small, ends, size_eq, (finds small size_eq).1⟩

end RemoteTail

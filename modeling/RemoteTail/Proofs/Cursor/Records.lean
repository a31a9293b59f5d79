import RemoteTail.Proofs.Cursor.Incidents
import RemoteTail.Proofs.Output.LineRecord

/-!
# Putting records together

A cursor that writes JSON, or server-sent events, in front of a file of text whose
windows are kept on character boundaries.  Each of its blocks holds the record of
a line, and the records put together are the file, up to where the buffered lines
begin (`Reading.Recorded`).

All lines that are read are text (`Reading.Attends.legible`), fragments included,
and lie in the file one after another (`Laid`).  So nothing is replaced when they
are written, and nothing is lost between them.
-/

namespace RemoteTail

open Simulation

namespace Reading

variable {σ : Type}

/-- The blocks that a reading has handed out hold records, and these are the content up to where the
buffered lines begin. -/
structure Recorded (reading : Reading σ) (format : OutputFormat) (content : Bytes)
    (blocks : List Bytes) (records : List LineRecord) : Prop where
  read_eq : blocks.map (LineRecord.ofBlock? format) = records.map some
  inside : reading.cursor.offset ≤ content.length
  buffered_le : Line.spans reading.cursor.buffer ≤ reading.cursor.offset
  bytes_eq : records.flatMap LineRecord.bytes =
    content.slice 0 (reading.cursor.offset - Line.spans reading.cursor.buffer)
  delimits : ∀ record ∈ records, record.Delimits content
  decoded : ∀ line ∈ reading.known, Utf8.decode? line.message = some (Utf8.lossy line.message)

/-- Where the lines handed out stop and the buffered ones begin. -/
theorem laid_lines {reading : Reading σ} {content : Bytes}
    (tracks : reading.cursor.Tracks content 0 reading.lines) :
    Line.spans reading.cursor.buffer ≤ reading.cursor.offset ∧
      Laid content 0 reading.lines
        (reading.cursor.offset - Line.spans reading.cursor.buffer) := by
  obtain ⟨middle, handed, buffered⟩ := tracks.laid.of_append
  rw [buffered.stop_eq, Nat.add_sub_cancel]
  exact ⟨Nat.le_add_left .., handed⟩

/-- Of a text with whole characters in every window, what has been handed out is recorded. -/
theorem Attends.recorded {reading : Reading (Service ReadReply)} {file : MemoryFile}
    (attends : reading.Attends file 0) (aligned : file.charAligned = true) {format : OutputFormat}
    (structured : format ≠ .text) :
    reading.Recorded format file.bytes (reading.lines.map format.lineBlock)
      (reading.lines.map LineRecord.ofLine) := by
  have texts := attends.legible aligned
  obtain ⟨buffered_le, laid⟩ := laid_lines attends.served.tracks
  have handed_texts : ∀ line ∈ reading.lines, Utf8.IsText line.bytes :=
    fun line handed => texts line (List.mem_append_left _ handed)
  constructor
  · rw [List.map_map, List.map_map]
    apply List.map_congr_left
    intro line _
    exact LineRecord.ofBlock?_lineBlock structured line
  · rw [MemoryFile.length_bytes]
    exact attends.served.offset_le_size
  · exact buffered_le
  · rw [← laid.flatMap_bytes, List.flatMap_map]
    apply List.flatMap_congr
    intro line handed
    exact LineRecord.bytes_ofLine (handed_texts line handed)
  · intro record member
    obtain ⟨line, handed, rfl⟩ := List.mem_map.mp member
    exact LineRecord.delimits_ofLine (laid.liesIn handed) (handed_texts line handed)
  · intro line known
    exact (Line.isText_message (texts line known)).decode?_eq_lossy

end Reading

namespace Cursor

/-- JSON output, and server-sent events, can be put together again.  Whatever pulls are made in
front of a text that grows by texts, with whole characters in every window of at least seven octets,
each block holds the record of a line, and the records are the content up to where the buffered
lines begin. -/
theorem recorded_of_start {file : MemoryFile} {service begun : Service ReadReply}
    {coordinates : TaskCoordinates} {name : String} {format : OutputFormat} {config : ReadConfig}
    {c : Cursor} {incidents : List Incident} (steady : service.Steady file)
    (aligned : file.charAligned = true) (uncapped : file.cap = none)
    (isText : Utf8.IsText file.bytes) (structured : format ≠ .text)
    (top : config.direction = .topToBottom) (wide : 7 ≤ config.chunkSize)
    (started : (start serviceEndpoint coordinates name format.formatter config).run service =
      (some (.ok c), begun))
    (texts : ∀ incident ∈ incidents, Utf8.IsText incident.growth) :
    ∃ records,
      (Reading.after serviceEndpoint (course incidents) ⟨c, begun, []⟩).Recorded format
        (file.bytes ++ appended incidents)
        (Reading.blocks (Reading.results serviceEndpoint (course incidents) ⟨c, begun, []⟩))
        records := by
  have sound := (start_cases started).1
  rw [start_run_topToBottom sound top] at started
  obtain ⟨rfl, rfl⟩ : fresh coordinates name format.formatter config 0 = c ∧ service = begun := by
    obtain ⟨started_eq, begun_eq⟩ := Prod.mk.inj started
    exact ⟨Except.ok.inj (Option.some.inj started_eq), begun_eq⟩
  obtain ⟨_, positive⟩ := positive_of_validate (validate_of_checked sound)
  have attends : Reading.Attends ⟨fresh coordinates name format.formatter config 0, service, []⟩
      file 0 := by
    constructor
    · exact steady
    · constructor
      · exact Service.serves_memory uncapped fun _ => isText
      · exact ⟨positive, fun _ => wide⟩
      · exact MemoryFile.begins_zero fun _ => isText
      · exact Nat.zero_le _
      · exact Tracks.initial _ rfl rfl positive
    · intro _ line member
      cases member
  have recorded := (attends.course fun _ => texts).recorded aligned structured
  have written := @Reading.map_lines_after _ serviceEndpoint format.lineBlock
    ⟨fresh coordinates name format.formatter config 0, service, []⟩ (fun _ => rfl)
    (course incidents)
  rw [List.map_nil, List.nil_append] at written
  rw [written, MemoryFile.bytes_append] at recorded
  exact ⟨_, recorded⟩

/-- A line that is longer than a window, with a tabulator and a quotation mark in it, a blank line,
and a line of which a part is appended later. -/
theorem recorded_of_start_of_growing_text :
    ∃ (reading : Reading (Service ReadReply)) (blocks : List Bytes) (records : List LineRecord),
      blocks.length = 4 ∧
        reading.Recorded .sse (Bytes.ofString "aé😀\t\"b\n\nxyzé\n") blocks records ∧
        records.flatMap LineRecord.bytes = Bytes.ofString "aé😀\t\"b\n\nxyzé\n" := by
  let coordinates : TaskCoordinates := ⟨"agent", "framework", "executor", "container", none⟩
  let config : ReadConfig := { chunkSize := 7 }
  let file : MemoryFile := ⟨(Bytes.ofString "aé😀\t\"b\n\nxyz").toArray, true, none⟩
  let incidents : List Incident :=
    [.pull .answered .never, .pull (.refused .unavailable) .never, .pull .answered .waiting,
      .append (Bytes.ofString "é\n"), .pull .answered .never, .pull .answered .never]
  have sound : checked coordinates "stdout" config = .ok () := rfl
  have texts : ∀ incident ∈ incidents, Utf8.IsText incident.growth := by
    have nothing : Utf8.IsText [] := ⟨[], rfl⟩
    simp only [incidents, List.forall_mem_cons, List.not_mem_nil, false_implies, implies_true,
      and_true]
    exact ⟨nothing, nothing, nothing, ⟨_, rfl⟩, nothing, nothing⟩
  let service : Service ReadReply := { source := .memory file }
  have started := @start_run_topToBottom coordinates "stdout" OutputFormat.sse.formatter config _
    serviceEndpoint sound rfl service
  obtain ⟨records, recorded⟩ := @recorded_of_start file service service coordinates "stdout" .sse
    config _ incidents ⟨rfl, rfl, rfl⟩ rfl rfl ⟨_, rfl⟩ (by decide) rfl (by decide) started texts
  have content_eq : file.bytes ++ appended incidents = Bytes.ofString "aé😀\t\"b\n\nxyzé\n" := by
    decide +kernel
  rw [content_eq] at recorded
  refine ⟨_, _, records, ?_, recorded, ?_⟩
  · decide +kernel
  · rw [recorded.bytes_eq]
    decide +kernel

end Cursor

end RemoteTail

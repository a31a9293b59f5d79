import RemoteTail.Proofs.Cursor.Limit
import RemoteTail.Proofs.Cursor.StillFile

/-!
# Forward reading with capped answers

A cursor tells the end of the file by the length of an answer alone, so an answer
that the endpoint has cut short may be taken for the end.  With a cap, the longest
answer is the shorter of cap and window.  If it counts as a full window, every
file is read to its last terminator; if not, a line that is as long as an answer
is never got past (`fullyRead_capped_iff`).  Lines that fit into an answer with
their terminators are always read.
-/

namespace RemoteTail

open Simulation Bytes

/-! ## Lines that fit into an answer -/

/-- Terminated lines that are written out end with a line. -/
theorem endsLine_flatMap_bytes {lines : List Line}
    (terminated : ∀ line ∈ lines, line.terminated = true) :
    EndsLine (lines.flatMap Line.bytes) := by
  by_cases none_given : lines = []
  · intro octet last
    simp [none_given] at last
  · obtain ⟨earlier, line, rfl⟩ := (List.eq_nil_or_concat lines).resolve_left none_given
    apply endsLine_of_getLast?_eq
    have ends : line.terminated = true := terminated line (by simp)
    simp [Line.bytes, ends]

/-- From the beginning of a line, the next terminator is no further away than the widest line is
wide. -/
theorem newline_mem_slice_of_narrow {content : Bytes} {width offset : Nat}
    (narrow : ∀ message ∈ (cut content).1, message.length + 1 ≤ width)
    (begins : EndsLine (content.take offset)) (found : newline ∈ content.drop offset) :
    newline ∈ content.slice offset (offset + width) := by
  have some_message : (cut (content.drop offset)).1 ≠ [] := fun empty =>
    cut_eq_nil_iff.mp empty found
  obtain ⟨message, messages, messages_eq⟩ := List.exists_cons_of_ne_nil some_message
  have whole : (cut content).1 =
      (cut (content.take offset)).1 ++ (cut (content.drop offset)).1 := by
    have parts := cut_append (content.take offset) (content.drop offset)
    rw [List.take_append_drop, cut_rest_eq_nil begins, List.nil_append] at parts
    rw [parts]
  have fits := narrow message (by simp [whole, messages_eq])
  have shown := join_cut (content.drop offset)
  rw [messages_eq, join_cons, List.append_assoc, List.cons_append] at shown
  rw [Bytes.slice, Nat.add_sub_cancel_left, ← shown]
  apply List.mem_of_getElem? (i := message.length)
  rw [List.getElem?_take_of_lt (Nat.lt_of_succ_le fits),
    List.getElem?_append_right (Nat.le_refl _), Nat.sub_self, List.getElem?_cons_zero]

namespace Reading

/-! ## Reading without a limit -/

/-- A cursor has been started at the top of the file, which answers and stays as it is, and no limit
ends the read. -/
inductive Opens (file : MemoryFile) (chunkSize : Nat) : Reading (Service ReadReply) → Prop where
  /-- The start of the cursor. -/
  | start {coordinates : TaskCoordinates} {name : String} {formatter : Formatter}
      {config : ReadConfig} {service world : Service ReadReply} {c : Cursor}
      (steady : service.Steady file) (answering : service.treatment = .answered)
      (top : config.direction = .topToBottom) (chunkSize_eq : config.chunkSize = chunkSize)
      (endless : config.stream = true ∨ file.bytes.count newline < config.maxLines)
      (started : (Cursor.start serviceEndpoint coordinates name formatter config).run service =
        (some (.ok c), world)) : Opens file chunkSize ⟨c, world, []⟩

/-- What every pull keeps of a reading that no limit ends. -/
structure Endless (reading : Reading (Service ReadReply)) (file : MemoryFile) (chunkSize : Nat) :
    Prop where
  peruses : reading.Peruses file 0
  counts : reading.Counts
  chunkSize_eq : reading.cursor.config.chunkSize = chunkSize
  endless : reading.cursor.config.stream = true ∨
    file.bytes.count newline < reading.cursor.config.maxLines

/-- Nothing is shown that could be handed out. -/
def FindsNothing (file : MemoryFile) (chunkSize : Nat) (reading : Reading (Service ReadReply)) :
    Prop :=
  newline ∉ file.bytes.slice reading.cursor.offset (file.reach chunkSize reading.cursor.offset) ∧
    fillsWindow (file.reach chunkSize reading.cursor.offset - reading.cursor.offset) chunkSize =
      false

variable {reading : Reading (Service ReadReply)} {file : MemoryFile} {chunkSize : Nat}

/-- A reading that has been opened has read nothing. -/
theorem Opens.unread (opens : Opens file chunkSize reading) :
    reading.known = [] ∧ reading.cursor.offset = 0 := by
  obtain ⟨_, _, top, _, _, started⟩ := opens
  have sound := (Cursor.start_cases started).1
  rw [Cursor.start_run_topToBottom sound top] at started
  cases started
  exact ⟨rfl, rfl⟩

theorem Opens.endless (opens : Opens file chunkSize reading) (plain : file.charAligned = false) :
    reading.Endless file chunkSize := by
  obtain ⟨steady, answering, top, chunkSize_eq, endless, started⟩ := opens
  have sound := (Cursor.start_cases started).1
  obtain ⟨_, positive⟩ := Cursor.positive_of_validate (Cursor.validate_of_checked sound)
  rw [Cursor.start_run_topToBottom sound top] at started
  cases started
  constructor
  · exact ⟨steady, answering, plain, rfl, Nat.zero_le _, positive⟩
  · rfl
  · exact chunkSize_eq
  · exact endless

namespace Endless

/-- No more lines are counted than the file has terminators. -/
theorem emitted_le (endless : reading.Endless file chunkSize) :
    reading.cursor.emitted ≤ file.bytes.count newline := by
  obtain ⟨middle, handed, _⟩ := endless.peruses.laid.of_append
  rw [endless.counts, ← handed.count_newline, slice_zero]
  exact (List.take_sublist middle file.bytes).count_le newline

theorem limitReached_eq (endless : reading.Endless file chunkSize) :
    reading.cursor.limitReached = false := by
  have emitted_le := endless.emitted_le
  rcases endless.endless with stream | few
  · simp [Cursor.limitReached, stream]
  · simp [Cursor.limitReached, Nat.lt_of_le_of_lt emitted_le few]

theorem takeLine (endless : reading.Endless file chunkSize) :
    ∃ found next world,
      (reading.cursor.takeLine serviceEndpoint).run reading.world =
          (some (.ok found, next), world) ∧
        Endless ⟨next, world, reading.lines ++ Taking.lines (.ok found)⟩ file chunkSize ∧
        Perusal file reading ⟨next, world, reading.lines ++ Taking.lines (.ok found)⟩ found := by
  obtain ⟨found, next, world, taken, peruses, perusal⟩ := endless.peruses.takeLine
  have config_eq := (Cursor.takeLine_setup taken).2.2
  refine ⟨found, next, world, taken, ?_, perusal⟩
  constructor
  · exact peruses
  · rw [Counts, Cursor.takeLine_emitted taken, endless.counts, List.countP_append]
  · rw [config_eq, endless.chunkSize_eq]
  · rw [config_eq]
    exact endless.endless

/-- A pull that finds nothing has read a window that shows nothing to hand out. -/
theorem findsNothing (endless : reading.Endless file chunkSize)
    {after : Reading (Service ReadReply)} (perusal : Perusal file reading after none) :
    FindsNothing file chunkSize after := by
  cases perusal with
  | limited reached _ =>
      rw [endless.limitReached_eq] at reached
      cases reached
  | read _ _ _ found_iff takesIn =>
      rw [found_iff.mp rfl, endless.chunkSize_eq] at takesIn
      generalize offset_eq : after.cursor.offset = offset at takesIn
      cases takesIn with
      | lines _ _ _ _ some_line _ => exact absurd rfl some_line
      | nothing free short =>
          rw [FindsNothing, offset_eq]
          exact ⟨free, short⟩

/-- The reading comes to its end, where nothing is shown that could be handed out.  `Kept` is
whatever else every pull keeps. -/
theorem ends {Kept : Reading (Service ReadReply) → Prop}
    (keeps : ∀ {before after found}, before.Endless file chunkSize →
      Perusal file before after found → Kept before → Kept after)
    (endless : reading.Endless file chunkSize) (kept : Kept reading) :
    ∃ last, reading.Ends serviceEndpoint last ∧ (last.Endless file chunkSize ∧ Kept last) ∧
      FindsNothing file chunkSize last := by
  refine @exists_ends _ serviceEndpoint
    (fun reading => reading.Endless file chunkSize ∧ Kept reading)
    (fun last => (last.Endless file chunkSize ∧ Kept last) ∧ FindsNothing file chunkSize last)
    file.size ?_ ?_ _ ⟨endless, kept⟩
  · rintro before ⟨endless, kept⟩
    obtain ⟨found, next, world, taken, endless', perusal⟩ := endless.takeLine
    have kept' := keeps endless perusal kept
    refine ⟨found, next, world, taken, fun _ => ⟨endless', kept'⟩, ?_⟩
    rintro rfl
    exact ⟨⟨endless', kept'⟩, endless.findsNothing perusal⟩
  · rintro before ⟨endless, _⟩
    exact endless.peruses.length_le_size

end Endless

/-! ## Where reading ends -/

/-- The file is read to its last terminator.  Every cursor that starts at its top comes to the end
of the data, and then there is no terminator left to read. -/
def FullyRead (file : MemoryFile) (chunkSize : Nat) : Prop :=
  ∀ {reading}, Opens file chunkSize reading → ∃ last, reading.Ends serviceEndpoint last ∧
    newline ∉ file.bytes.drop last.cursor.offset

theorem fillsWindow_of_le {length longer : Nat} (fills : fillsWindow length chunkSize = true)
    (more : length ≤ longer) : fillsWindow longer chunkSize = true := by
  rw [fillsWindow_iff] at fills ⊢
  omega

/-- If the longest answer counts as a full window, a shorter one comes from the end of the file. -/
theorem fullyRead_of_fills (plain : file.charAligned = false)
    (fills : fillsWindow (min chunkSize (file.cap.getD chunkSize)) chunkSize = true) :
    FullyRead file chunkSize := by
  intro reading opens
  obtain ⟨last, ends, ⟨endless, _⟩, free, short⟩ :=
    @Endless.ends _ _ _ (fun _ => True) (fun _ _ _ => trivial) (opens.endless plain) trivial
  have reaches : file.reach chunkSize last.cursor.offset = file.size := by
    rw [MemoryFile.reach] at short ⊢
    rcases Nat.le_total (last.cursor.offset + min chunkSize (file.cap.getD chunkSize)) file.size
      with inside | beyond
    · rw [Nat.min_eq_left inside, Nat.add_sub_cancel_left, fills] at short
      cases short
    · exact Nat.min_eq_right beyond
  rw [reaches, slice_eq_drop _ (Nat.le_of_eq file.length_bytes)] at free
  exact ⟨last, ends, free⟩

/-- If the longest answer does not count as a full window, there are no fragments. -/
theorem terminated_of_perusal {before after : Reading (Service ReadReply)} {found : Option Line}
    (endless : before.Endless file chunkSize) (perusal : Perusal file before after found)
    (stalls : fillsWindow (min chunkSize (file.cap.getD chunkSize)) chunkSize = false)
    (terminated : ∀ line ∈ before.known, line.terminated = true) :
    ∀ line ∈ after.known, line.terminated = true := by
  cases perusal with
  | limited _ same => rwa [same]
  | buffered known_eq _ _ => rwa [known_eq]
  | read _ _ known_eq _ takesIn =>
      rw [known_eq, List.forall_mem_append]
      refine ⟨terminated, ?_⟩
      rw [endless.chunkSize_eq] at takesIn
      generalize after.cursor.offset = next at takesIn
      cases takesIn with
      | lines _ _ _ _ _ ended => exact ended
      | fragment _ fills =>
          have shorter : file.reach chunkSize before.cursor.offset - before.cursor.offset ≤
              min chunkSize (file.cap.getD chunkSize) := by
            rw [MemoryFile.reach]
            omega
          rw [fillsWindow_of_le fills shorter] at stalls
          cases stalls
      | nothing _ _ =>
          intro line member
          cases member

/-- If lines fit into the longest answer, which does not count as a full window, every line is read
and no fragment is made. -/
theorem exists_ends_of_narrow (plain : file.charAligned = false)
    (stalls : fillsWindow (min chunkSize (file.cap.getD chunkSize)) chunkSize = false)
    (narrow : ∀ message ∈ (cut file.bytes).1,
      message.length + 1 ≤ min chunkSize (file.cap.getD chunkSize))
    (opens : Opens file chunkSize reading) :
    ∃ last, reading.Ends serviceEndpoint last ∧ newline ∉ file.bytes.drop last.cursor.offset ∧
      ∀ line ∈ last.lines, line.terminated = true := by
  have fresh : ∀ line ∈ reading.known, line.terminated = true := by
    rw [opens.unread.1]
    intro line member
    cases member
  obtain ⟨last, ends, ⟨endless, terminated⟩, free, _⟩ :=
    @Endless.ends _ _ _ (fun reading => ∀ line ∈ reading.known, line.terminated = true)
      (fun endless perusal terminated => terminated_of_perusal endless perusal stalls terminated)
      (opens.endless plain) fresh
  refine ⟨last, ends, ?_, ?_⟩
  · intro found
    have begins := endsLine_flatMap_bytes terminated
    rw [endless.peruses.laid.flatMap_bytes, slice_zero] at begins
    rw [MemoryFile.slice_reach] at free
    exact free (newline_mem_slice_of_narrow narrow begins found)
  · intro line member
    exact terminated line (List.mem_append_left _ member)

/-- Every file can be opened, with every window. -/
theorem exists_opens (file : MemoryFile) (positive : 0 < chunkSize) :
    ∃ reading, Opens file chunkSize reading := by
  let config : ReadConfig := { stream := true, chunkSize }
  have sound :
      Cursor.checked ⟨"agent", "framework", "executor", "container", none⟩ "stdout" config =
        .ok () := by
    have window : chunkSize ≠ 0 := Nat.ne_of_gt positive
    have valid : config.validate = .ok () := by
      simp [ReadConfig.validate, config, window, unlimited]
    exact valid
  have steady : ({ source := .memory file } : Service ReadReply).Steady file := ⟨rfl, rfl, rfl⟩
  exact ⟨_, .start steady rfl rfl rfl (.inl rfl)
    (@Cursor.start_run_topToBottom _ _ OutputFormat.text.formatter _ _ serviceEndpoint sound rfl _)⟩

/-- A line that is as long as the longest answer is never got past if that does not count as a full
window. -/
theorem not_fullyRead_of_stalls (positive : 0 < chunkSize) (plain : file.charAligned = false)
    (stalls : fillsWindow (min chunkSize (file.cap.getD chunkSize)) chunkSize = false)
    (content_eq : file.bytes =
      List.replicate (min chunkSize (file.cap.getD chunkSize)) 0x61 ++ [newline]) :
    ¬ FullyRead file chunkSize := by
  have keeps : ∀ {before after : Reading (Service ReadReply)} {found},
      before.Endless file chunkSize → Perusal file before after found →
        before.cursor.offset = 0 → after.cursor.offset = 0 := by
    intro before after found endless perusal top
    cases perusal with
    | limited _ same => rwa [same]
    | buffered _ offset_eq _ => rwa [offset_eq]
    | read _ _ _ _ takesIn =>
        have reach_eq : file.reach chunkSize 0 = min chunkSize (file.cap.getD chunkSize) := by
          rw [MemoryFile.reach, Nat.zero_add, ← MemoryFile.length_bytes, content_eq,
            List.length_append, List.length_replicate]
          exact Nat.min_eq_left (Nat.le_add_right ..)
        rw [endless.chunkSize_eq, top, reach_eq, content_eq] at takesIn
        generalize after.cursor.offset = next at takesIn ⊢
        cases takesIn with
        | lines after before ends _ _ _ =>
            have inside : next - 1 <
                (List.replicate (min chunkSize (file.cap.getD chunkSize))
                  (0x61 : UInt8)).length := by
              rw [List.length_replicate]
              omega
            rw [List.getElem?_append_left inside] at ends
            cases List.eq_of_mem_replicate (List.mem_of_getElem? ends)
        | fragment _ fills =>
            rw [Nat.sub_zero, stalls] at fills
            cases fills
        | nothing _ _ => rfl
  intro fully
  obtain ⟨reading, opens⟩ := exists_opens file positive
  obtain ⟨last, ends, none_left⟩ := fully opens
  obtain ⟨stalled, ends', ⟨_, top⟩, _⟩ :=
    @Endless.ends _ _ _ (fun reading => reading.cursor.offset = 0) keeps (opens.endless plain)
      opens.unread.2
  rw [ends.unique ends', top, List.drop_zero, content_eq] at none_left
  simp at none_left

/-- A plain file that shows at most `cap` octets in one answer. -/
def capped (content : Bytes) (cap : Nat) : MemoryFile where
  content := content.toArray
  cap := some cap

/-- With capped answers, every file is read to its last terminator exactly if the longest answer
counts as a full window.  If it does not, the files with lines that fit into an answer are, and
without a fragment. -/
theorem fullyRead_capped_iff (cap chunkSize : Nat) :
    ((∀ content, FullyRead (capped content cap) chunkSize) ↔
      chunkSize ≤ min cap chunkSize ∨
        3 < min cap chunkSize ∧ chunkSize ≤ min cap chunkSize + 3) ∧
    (¬ (chunkSize ≤ min cap chunkSize ∨
        3 < min cap chunkSize ∧ chunkSize ≤ min cap chunkSize + 3) →
      ∀ content, (∀ message ∈ (cut content).1, message.length + 1 ≤ cap) →
        FullyRead (capped content cap) chunkSize ∧
          ∀ {reading last}, Opens (capped content cap) chunkSize reading →
            reading.Ends serviceEndpoint last → ∀ line ∈ last.lines, line.terminated = true) := by
  rw [← fillsWindow_iff, Nat.min_comm, Bool.not_eq_true]
  constructor
  · constructor
    · intro fully
      by_contra stalls
      rw [Bool.not_eq_true] at stalls
      have positive : 0 < chunkSize := by
        apply Nat.pos_of_ne_zero
        rintro rfl
        simp [fillsWindow] at stalls
      let wide : Bytes := List.replicate (min chunkSize cap) 0x61 ++ [newline]
      exact @not_fullyRead_of_stalls (capped wide cap) _ positive rfl stalls rfl (fully wide)
    · intro fills content
      exact @fullyRead_of_fills (capped content cap) _ rfl fills
  · intro stalls content narrow
    have cap_le : min chunkSize cap = cap := by
      apply Nat.min_eq_right
      apply Nat.le_of_not_lt
      intro wide
      rw [Nat.min_eq_left (Nat.le_of_lt wide)] at stalls
      simp [fillsWindow] at stalls
    rw [← cap_le] at narrow
    have read : ∀ {reading}, Opens (capped content cap) chunkSize reading →
        ∃ last, reading.Ends serviceEndpoint last ∧ newline ∉ content.drop last.cursor.offset ∧
          ∀ line ∈ last.lines, line.terminated = true := fun opens =>
      @exists_ends_of_narrow _ (capped content cap) _ rfl stalls narrow opens
    constructor
    · intro reading opens
      obtain ⟨last, ends, free, _⟩ := read opens
      exact ⟨last, ends, free⟩
    · intro reading last opens ends
      obtain ⟨last', ends', _, terminated⟩ := read opens
      rw [ends.unique ends']
      exact terminated

/-- In windows of eight octets with answers of four, lines of four octets are read whole, but not
every line is. -/
theorem fullyRead_capped_iff_of_four_octets :
    (∃ reading last, Opens (capped [0x61, 0x62, 0x63, 0x0A, 0x0A, 0x64] 4) 8 reading ∧
      reading.Ends serviceEndpoint last ∧
        newline ∉ [0x61, 0x62, 0x63, 0x0A, 0x0A, 0x64].drop last.cursor.offset ∧
        ∀ line ∈ last.lines, line.terminated = true) ∧
      (∀ content, FullyRead (capped content 4) 7) ∧
      ¬ ∀ content, FullyRead (capped content 4) 8 := by
  obtain ⟨fully, narrow⟩ := fullyRead_capped_iff 4 8
  obtain ⟨read, whole⟩ := narrow (by decide) [0x61, 0x62, 0x63, 0x0A, 0x0A, 0x64] (by decide)
  refine ⟨?_, (fullyRead_capped_iff 4 7).1.mpr (by decide), fun all => ?_⟩
  · obtain ⟨reading, opens⟩ := exists_opens (capped [0x61, 0x62, 0x63, 0x0A, 0x0A, 0x64] 4)
      (show 0 < 8 by decide)
    obtain ⟨last, ends, free⟩ := read opens
    exact ⟨reading, last, opens, ends, free, whole opens ends⟩
  · exact absurd (fully.mp all) (by decide)

end Reading

end RemoteTail

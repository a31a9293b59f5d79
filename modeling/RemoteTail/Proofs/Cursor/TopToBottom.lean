import RemoteTail.Proofs.Cursor.TextBlocks

/-!
# Reading from the top

A cursor from the top hands out the first lines of a file, however long they are
and whatever the windows are.  If the file ends before the limit is reached,
what follows the last terminator is read in whole windows from there, and the
last of them may be short of a character's worth of octets: these are the only
positions where reads after the last terminator can stand (`OnGrid`).
-/

namespace RemoteTail

open Simulation Bytes

namespace Cursor

/-! ## Windows after the last terminator -/

/-- Where a read can stand: before the end of the last line, a number of whole windows after it, or
at the end of the content if the last window is nearly full. -/
inductive OnGrid (content : Bytes) (chunkSize : Nat) : (offset : Nat) → Prop where
  /-- Lines are still to come, or end here. -/
  | lines {offset : Nat} (before : offset ≤ content.tailOffset 0) : OnGrid content chunkSize offset
  /-- Whole windows have been read. -/
  | windows (count : Nat) : OnGrid content chunkSize (content.tailOffset 0 + count * chunkSize)
  /-- After whole windows, what is left has been taken for one. -/
  | whole {count rest : Nat}
      (length_eq : content.length = content.tailOffset 0 + (count * chunkSize + rest))
      (short : rest < chunkSize) (fills : 3 < rest ∧ chunkSize ≤ rest + 3) :
      OnGrid content chunkSize content.length

namespace OnGrid

variable {file : MemoryFile} {content : Bytes} {chunkSize offset next : Nat}

/-- What is read after the last terminator is read in windows. -/
theorem moves (grid : OnGrid file.bytes chunkSize offset) (plain : file.charAligned = false)
    (positive : 0 < chunkSize) (moves : Moves file chunkSize offset next) :
    OnGrid file.bytes chunkSize next := by
  cases moves with
  | stays => exact grid
  | lines _ after _ ends =>
      have inside := lt_tailOffset_zero ends
      exact .lines (by omega)
  | fragment shows whole fills =>
      have next_eq := shows.stop_eq plain
      have start_le := shows.start_le
      have windows : ∀ count, offset = file.bytes.tailOffset 0 + count * chunkSize →
          OnGrid file.bytes chunkSize next := by
        intro count offset_eq
        by_cases full : offset + chunkSize ≤ file.size
        · have further : next = file.bytes.tailOffset 0 + (count + 1) * chunkSize := by
            rw [Nat.succ_mul]
            omega
          rw [further]
          exact .windows (count + 1)
        · have reaches : next = file.bytes.length := by
            rw [MemoryFile.length_bytes]
            omega
          rw [reaches]
          rw [fillsWindow_iff] at fills
          refine @OnGrid.whole _ _ count (file.size - offset) ?_ ?_ ?_
          · rw [MemoryFile.length_bytes]
            omega
          · omega
          · omega
      cases grid with
      | lines before =>
          rcases Nat.eq_or_lt_of_le before with same | inside
          · exact windows 0 (by omega)
          · -- The last terminator lies outside the window, so the window ends before it.
            exact .lines (Nat.le_of_lt (lt_tailOffset_of_newline_not_mem inside whole))
      | windows count => exact windows count rfl
      | whole _ _ _ =>
          have nothing : next - file.bytes.length = 0 := by
            rw [MemoryFile.length_bytes]
            omega
          rw [nothing, fillsWindow_iff] at fills
          omega

/-- Windows divide what follows the last terminator in one way only. -/
theorem division_unique {count count' rest rest' : Nat} (short : rest < chunkSize)
    (short' : rest' < chunkSize)
    (same : count * chunkSize + rest = count' * chunkSize + rest') :
    count = count' ∧ rest = rest' := by
  have rest_eq : rest = rest' := by
    have remainders := congrArg (· % chunkSize) same
    simpa only [Nat.mul_add_mod_self_right, Nat.mod_eq_of_lt short, Nat.mod_eq_of_lt short']
      using remainders
  subst rest_eq
  refine ⟨?_, rfl⟩
  apply Nat.eq_of_mul_eq_mul_right (Nat.zero_lt_of_lt short)
  exact Nat.add_right_cancel same

/-- Where reading ends if no terminator and no window is left. -/
theorem offset_eq (grid : OnGrid file.bytes chunkSize offset) (inside : offset ≤ file.size)
    (no_newline : newline ∉ file.bytes.drop offset)
    (less : fillsWindow (file.size - offset) chunkSize = false) {count rest : Nat}
    (size_eq : file.size = file.bytes.tailOffset 0 + (count * chunkSize + rest))
    (short : rest < chunkSize) :
    offset = file.bytes.tailOffset 0 + count * chunkSize +
      if 3 < rest ∧ chunkSize ≤ rest + 3 then rest else 0 := by
  have not_full : ¬ (chunkSize ≤ file.size - offset ∨
      3 < file.size - offset ∧ chunkSize ≤ file.size - offset + 3) := by
    rw [← fillsWindow_iff, less]
    exact Bool.false_ne_true
  have windows : ∀ read, offset = file.bytes.tailOffset 0 + read * chunkSize →
      offset = file.bytes.tailOffset 0 + count * chunkSize +
        if 3 < rest ∧ chunkSize ≤ rest + 3 then rest else 0 := by
    intro read offset_eq
    obtain ⟨rfl, rest_eq⟩ := @division_unique chunkSize read count (file.size - offset) rest
      (by omega) short (by omega)
    rw [rest_eq] at not_full
    rw [if_neg (by omega), offset_eq, Nat.add_zero]
  cases grid with
  | lines before =>
      have reached := tailOffset_zero_le no_newline
      exact windows 0 (by omega)
  | windows read => exact windows read rfl
  | @whole read left length_eq left_short fills =>
      rw [MemoryFile.length_bytes] at length_eq ⊢
      obtain ⟨rfl, rfl⟩ := @division_unique chunkSize read count left rest left_short short
        (by omega)
      rw [if_pos fills, length_eq, Nat.add_assoc]

end OnGrid

/-! ## Blocks from the top -/

/-- A read of a plain file that has stopped growing: the file stays, and reads stand on its grid. -/
structure Still (origin : MemoryFile) (chunkSize : Nat) (service : Service ReadReply)
    (file : MemoryFile) (c : Cursor) : Prop where
  file_eq : file = origin
  growth_eq : service.growth = []
  grid : OnGrid origin.bytes chunkSize c.offset

theorem Still.takes {origin file file' : MemoryFile} {chunkSize : Nat} {c next : Cursor}
    {service service' : Service ReadReply} {found : Option Line}
    (still : Still origin chunkSize service file c) (plain : origin.charAligned = false)
    (positive : 0 < chunkSize) (config_eq : c.config.chunkSize = chunkSize)
    (takes : c.Takes service file found next service' file') :
    Still origin chunkSize service' file' next := by
  obtain ⟨rfl, growth_eq, grid⟩ := still
  obtain ⟨growth_eq', rfl⟩ := takes.still growth_eq
  have moves := takes.moves
  rw [config_eq] at moves
  exact ⟨rfl, growth_eq', grid.moves plain positive moves⟩

/-- Reading a plain file that does not grow from the top ends within one pull more than the file has
octets.  If the file has as many lines as the limit says, the blocks are these first lines, whatever
the windows are; if not, they are everything up to the last window after the last terminator that is
full, or short of three octets at most. -/
theorem blocks_of_start_topToBottom {file : MemoryFile} {service : Service ReadReply}
    {coordinates : TaskCoordinates} {name : String} {config : ReadConfig}
    (serves : service.Serves file) (still : service.growth = []) (plain : file.charAligned = false)
    (sound : checked coordinates name config = .ok ()) (top : config.direction = .topToBottom)
    (finite : config.stream = false) :
    ∃ c started blocks last service',
      (start serviceEndpoint coordinates name OutputFormat.text.formatter config).run service =
          (some (.ok c), started) ∧
        (c.blocks serviceEndpoint (file.size + 1)).run started =
          (some (blocks, .ended, last), service') ∧
        (config.maxLines ≤ file.bytes.count newline →
          blocks.flatten = file.bytes.firstLines config.maxLines) ∧
        (file.bytes.count newline < config.maxLines → ∀ count rest,
          file.size = file.bytes.tailOffset 0 + (count * config.chunkSize + rest) →
          rest < config.chunkSize →
            last.offset = file.bytes.tailOffset 0 + count * config.chunkSize +
                (if 3 < rest ∧ config.chunkSize ≤ rest + 3 then rest else 0) ∧
              blocks.flatten = file.bytes.take last.offset) := by
  obtain ⟨_, positive⟩ := positive_of_validate (validate_of_checked sound)
  have fits : file.FitsWindow config.chunkSize := ⟨positive, by simp [plain]⟩
  have reads := Reads.of_fresh sound finite serves fits (Nat.zero_le _)
    (MemoryFile.begins_zero serves.readable)
  have enough : service.horizon file < file.size + 1 := by simp [Service.horizon, still]
  obtain ⟨lines, last, service', file', run_eq, ended, ⟨rfl, _, grid⟩, final⟩ :=
    reads.blocks (Still file config.chunkSize)
      (fun reads takes kept => kept.takes plain positive (by rw [reads.config_eq]) takes)
      ⟨rfl, still, .lines (Nat.zero_le _)⟩ enough
  refine ⟨_, service, _, last, service', start_run_topToBottom sound top service, run_eq, ?_, ?_⟩
  · intro many
    have reached := ended.reached_of_le_count final (by rwa [List.drop_zero])
    rw [← List.flatMap_def]
    apply ended.written_eq reached
    · exact firstLines_prefix ..
    · exact endsLine_join _
    · rw [count_newline_firstLines, Nat.min_eq_left many]
  · intro few count rest size_eq short
    have exhausted : last.Exhausted file' := by
      apply final.resolve_left
      intro reached
      have counted := ended.emitted_le_count
      rw [List.drop_zero] at counted
      omega
    have less := exhausted.short
    rw [ended.config_eq] at less
    constructor
    · exact grid.offset_eq ended.served.offset_le_size exhausted.no_newline less size_eq short
    · rw [← List.flatMap_def, ended.served.tracks.written_of_buffer_nil exhausted.buffer_eq,
        slice_zero]

/-- One line, and an end that is one octet short of a window. -/
theorem blocks_of_start_topToBottom_of_short_end :
    let file : MemoryFile := { content := #[0x61, 0x62, 0x0A, 0x63, 0x64, 0x65, 0x66] }
    ∃ c started blocks last service',
      (start serviceEndpoint ⟨"agent", "framework", "executor", "container", none⟩ "stdout"
          OutputFormat.text.formatter { chunkSize := 5 }).run { source := .memory file } =
            (some (.ok c), started) ∧
        (c.blocks serviceEndpoint 8).run started = (some (blocks, .ended, last), service') ∧
        last.offset = 7 ∧ blocks.flatten = file.bytes := by
  intro file
  let service : Service ReadReply := { source := .memory file }
  let config : ReadConfig := { chunkSize := 5 }
  have plain : file.charAligned = false := rfl
  have serves : service.Serves file :=
    ⟨rfl, rfl, rfl, rfl, rfl, by simp [MemoryFile.Readable, plain], by simp [plain]⟩
  have sound : checked ⟨"agent", "framework", "executor", "container", none⟩ "stdout" config =
      .ok () := rfl
  obtain ⟨c, started, blocks, last, service', start_eq, blocks_eq, _, few⟩ :=
    blocks_of_start_topToBottom serves rfl plain sound rfl rfl
  obtain ⟨offset_eq, written⟩ := few (by decide) 0 4 (by decide) (by decide)
  refine ⟨c, started, blocks, last, service', start_eq, blocks_eq, ?_, ?_⟩
  · exact offset_eq
  · rw [written, offset_eq]
    rfl

end Cursor

end RemoteTail

import RemoteTail.Proofs.Cursor.StillFile

/-!
# The number of reads

What follows the last line of a window is read again, and a window may give one
octet only: a terminator that it begins with.  What is read again has shown no
terminator, though, so the next line ends behind it.  Two full windows in a row
consume the length of one at least, which bounds the reads up to the end of the
data (`requests_length_lt`).

The bound is amortized.  `Suffices` says how many reads are enough from a position
on, and every read takes one of them away (`Suffices.takesIn`).
-/

namespace RemoteTail

open Simulation Bytes

/-- So many reads are enough to come from a position of the content to the end of the data. -/
inductive Suffices (content : Bytes) (chunkSize offset reads : Nat) : Prop where
  /-- No line ends before `clear`, which the last window may have shown. -/
  | text {clear : Nat} (from_offset : offset ≤ clear) (shown : clear ≤ offset + chunkSize)
      (inside : clear ≤ content.length) (free : newline ∉ content.slice offset clear)
      (enough : 2 * ((content.length - clear) / chunkSize) + 3 + (if offset < clear then 1 else 0) ≤
        reads)
  /-- What is left is shorter than a window, and no line ends in it. -/
  | rest (short : content.length < offset + chunkSize) (free : newline ∉ content.drop offset)
      (enough : 0 < reads) (enough_left : offset < content.length → 1 < reads)

namespace Suffices

variable {content : Bytes} {chunkSize offset clear next reads : Nat} {lines : List Line}

/-- A full window takes a read away. -/
theorem next_of_full (positive : 0 < chunkSize) (from_offset : offset ≤ clear)
    (shown : clear ≤ offset + chunkSize) (free : newline ∉ content.slice offset clear)
    (enough : 2 * ((content.length - clear) / chunkSize) + 3 + (if offset < clear then 1 else 0) ≤
      reads + 1)
    (full : offset + chunkSize ≤ content.length)
    (takesIn : TakesIn content chunkSize offset (offset + chunkSize) lines next)
    (some_line : lines ≠ []) : Suffices content chunkSize next reads := by
  have window : (content.length - offset) / chunkSize =
      (content.length - (offset + chunkSize)) / chunkSize + 1 := by
    rw [Nat.div_eq_sub_div positive (by omega), Nat.sub_sub]
  cases takesIn with
  | lines after before ends free_rest _ _ =>
      -- A window in which nothing has been shown before pays with its whole length, even if it
      -- gives one octet only.  A window that is read over gives a line behind what has been shown,
      -- and pays with the read that has been added for it.
      rcases Nat.eq_or_lt_of_le from_offset with rfl | again
      · apply Suffices.text before (by omega) full free_rest
        rw [if_neg (Nat.lt_irrefl _)] at enough
        split <;> omega
      · have behind := lt_of_newline_not_mem_slice free after ends
        apply Suffices.text (Nat.le_refl next) (Nat.le_add_right ..) (Nat.le_trans before full)
          (by simp)
        have fewer : (content.length - next) / chunkSize ≤
            (content.length - clear) / chunkSize := Nat.div_le_div_right (by omega)
        rw [if_pos again] at enough
        rw [if_neg (Nat.lt_irrefl _)]
        omega
  | fragment _ _ =>
      apply Suffices.text (Nat.le_refl _) (Nat.le_add_right ..) full (by simp)
      rw [if_neg (Nat.lt_irrefl _)]
      rcases Nat.eq_or_lt_of_le from_offset with rfl | again
      · omega
      · have fewer : (content.length - (offset + chunkSize)) / chunkSize ≤
            (content.length - clear) / chunkSize := Nat.div_le_div_right (by omega)
        rw [if_pos again] at enough
        omega
  | nothing _ _ => exact absurd rfl some_line

/-- A window that comes to the end of the content leaves two reads at most. -/
theorem next_of_short (enough : 1 < reads) (before : offset ≤ content.length)
    (short : content.length < offset + chunkSize)
    (takesIn : TakesIn content chunkSize offset content.length lines next)
    (some_line : lines ≠ []) : Suffices content chunkSize next reads := by
  cases takesIn with
  | lines after _ _ free _ _ =>
      rw [slice_eq_drop _ (Nat.le_refl _)] at free
      exact .rest (by omega) free (by omega) (fun _ => enough)
  | fragment _ _ =>
      apply Suffices.rest (by omega) _ (by omega) (fun _ => enough)
      rw [List.drop_length]
      exact List.not_mem_nil
  | nothing _ _ => exact absurd rfl some_line

/-- Every read takes one of the reads away. -/
theorem takesIn (allowed : Suffices content chunkSize offset reads) (positive : 0 < chunkSize)
    (before : offset ≤ content.length)
    (takesIn : TakesIn content chunkSize offset (min (offset + chunkSize) content.length) lines
      next) :
    ∃ left, reads = left + 1 ∧ (lines ≠ [] → Suffices content chunkSize next left) := by
  cases allowed with
  | text from_offset shown inside free enough =>
      obtain ⟨left, rfl⟩ : ∃ left, reads = left + 1 := ⟨reads - 1, by omega⟩
      refine ⟨left, rfl, ?_⟩
      rcases Nat.lt_or_ge content.length (offset + chunkSize) with short | full
      · rw [Nat.min_eq_right (Nat.le_of_lt short)] at takesIn
        exact next_of_short (by omega) before short takesIn
      · rw [Nat.min_eq_left full] at takesIn
        exact next_of_full positive from_offset shown free enough full takesIn
  | rest short free enough enough_left =>
      obtain ⟨left, rfl⟩ : ∃ left, reads = left + 1 := ⟨reads - 1, by omega⟩
      refine ⟨left, rfl, ?_⟩
      rw [Nat.min_eq_right (Nat.le_of_lt short)] at takesIn
      intro some_line
      cases takesIn with
      | lines after before' ends _ _ _ =>
          rw [← slice_eq_drop offset (Nat.le_refl content.length)] at free
          have behind := lt_of_newline_not_mem_slice free after ends
          omega
      | fragment _ fills =>
          rw [fillsWindow_iff] at fills
          have more := enough_left (by omega)
          apply Suffices.rest (by omega) _ (by omega)
            (fun inside => absurd inside (Nat.lt_irrefl _))
          rw [List.drop_length]
          exact List.not_mem_nil
      | nothing _ _ => exact absurd rfl some_line

end Suffices

namespace Reading

/-- Since `earlier`, the service has been asked for windows of the cursor's file, last first. -/
def AskedFor (c : Cursor) (earlier requests : List Request) (service : Service ReadReply) : Prop :=
  service.log = requests ++ earlier ∧
    ∀ request ∈ requests, ∃ offset, request = ⟨c.file, .bytes offset c.config.chunkSize⟩

theorem AskedFor.called {c : Cursor} {earlier requests : List Request}
    {service : Service ReadReply} (asked : AskedFor c earlier requests service) (offset : Nat) :
    AskedFor c earlier (⟨c.file, .bytes offset c.config.chunkSize⟩ :: requests)
      (service.called ⟨c.file, .bytes offset c.config.chunkSize⟩) := by
  constructor
  · rw [Service.called, asked.1, List.cons_append]
  · rw [List.forall_mem_cons]
    exact ⟨⟨offset, rfl⟩, asked.2⟩

/-- What every pull that gives a line keeps of a reading that starts with the cursor `c`.  What has
been asked for and what is enough from here on are `bound` reads together. -/
structure Spends (reading : Reading (Service ReadReply)) (c : Cursor) (file : MemoryFile)
    (earlier : List Request) (bound : Nat) : Prop where
  peruses : reading.Peruses file c.offset
  file_eq : reading.cursor.file = c.file
  config_eq : reading.cursor.config = c.config
  within : ∃ requests left, AskedFor c earlier requests reading.world ∧
    requests.length + left = bound ∧
      Suffices file.bytes c.config.chunkSize reading.cursor.offset left

namespace Spends

variable {reading after : Reading (Service ReadReply)} {c : Cursor} {file : MemoryFile}
  {earlier : List Request} {bound : Nat} {found : Option Line}

/-- A pull spends one read at most, and one that gives a line leaves enough of them. -/
theorem next (spends : reading.Spends c file earlier bound) (uncapped : file.cap = none)
    (perusal : Perusal file reading after found) :
    ∃ requests left, AskedFor c earlier requests after.world ∧ requests.length + left = bound ∧
      (found ≠ none → Suffices file.bytes c.config.chunkSize after.cursor.offset left) := by
  obtain ⟨requests, left, asked, total, enough⟩ := spends.within
  cases perusal with
  | limited _ same =>
      rw [same]
      exact ⟨requests, left, asked, total, fun _ => enough⟩
  | buffered _ offset_eq world_eq =>
      rw [world_eq, offset_eq]
      exact ⟨requests, left, asked, total, fun _ => enough⟩
  | read _ world_eq _ found_iff takesIn =>
      have reach_eq : file.reach c.config.chunkSize reading.cursor.offset =
          min (reading.cursor.offset + c.config.chunkSize) file.bytes.length := by
        rw [MemoryFile.reach, uncapped, Option.getD_none, Nat.min_self, MemoryFile.length_bytes]
      have positive := spends.peruses.positive
      have before := spends.peruses.offset_le_size
      rw [← MemoryFile.length_bytes] at before
      rw [spends.config_eq, reach_eq] at takesIn
      rw [spends.config_eq] at positive
      rw [spends.file_eq, spends.config_eq] at world_eq
      obtain ⟨left, rfl, enough_next⟩ := enough.takesIn positive before takesIn
      rw [world_eq]
      refine ⟨_, left, asked.called reading.cursor.offset, ?_, ?_⟩
      · rw [List.length_cons]
        omega
      · rw [Ne, found_iff]
        exact enough_next

theorem takeLine (spends : reading.Spends c file earlier bound) (uncapped : file.cap = none) :
    ∃ found next world,
      (reading.cursor.takeLine serviceEndpoint).run reading.world =
          (some (.ok found, next), world) ∧
        (found ≠ none →
          Spends ⟨next, world, reading.lines ++ Taking.lines (.ok found)⟩ c file earlier bound) ∧
        ∃ requests, AskedFor c earlier requests world ∧ requests.length ≤ bound := by
  obtain ⟨found, next, world, taken, peruses, perusal⟩ := spends.peruses.takeLine
  obtain ⟨file_eq, _, config_eq⟩ := Cursor.takeLine_setup taken
  obtain ⟨requests, left, asked, total, enough⟩ := spends.next uncapped perusal
  refine ⟨found, next, world, taken, fun some_line => ?_, requests, asked, by omega⟩
  constructor
  · exact peruses
  · rw [file_eq, spends.file_eq]
  · rw [config_eq, spends.config_eq]
  · exact ⟨requests, left, asked, total, enough some_line⟩

end Spends

/-- Up to the end of the data, a plain file is read in fewer than four reads and two for every
window that is left of it. -/
theorem requests_length_lt {c : Cursor} {service : Service ReadReply} {file : MemoryFile}
    (steady : service.Steady file) (answering : service.treatment = .answered)
    (plain : file.charAligned = false) (uncapped : file.cap = none)
    (positive : 0 < c.config.chunkSize) (unread : c.buffer = []) (inside : c.offset ≤ file.size) :
    ∃ last requests, Ends serviceEndpoint ⟨c, service, []⟩ last ∧
      AskedFor c service.log requests last.world ∧
        requests.length < 2 * ((file.size - c.offset) / c.config.chunkSize) + 4 := by
  have fresh : Spends ⟨c, service, []⟩ c file service.log
      (2 * ((file.size - c.offset) / c.config.chunkSize) + 3) := by
    constructor
    · refine ⟨steady, answering, plain, ?_, inside, positive⟩
      rw [known, unread, List.append_nil]
      exact .nil file.bytes c.offset
    · rfl
    · rfl
    · refine ⟨[], _, ⟨rfl, List.forall_mem_nil _⟩, Nat.zero_add _, ?_⟩
      apply Suffices.text (Nat.le_refl c.offset) (Nat.le_add_right ..) _ (by simp)
      · rw [if_neg (Nat.lt_irrefl _), MemoryFile.length_bytes]
      · rwa [MemoryFile.length_bytes]
  obtain ⟨last, ends, requests, asked, few⟩ :=
    @exists_ends _ serviceEndpoint (fun reading => reading.Spends c file service.log _)
      (fun last => ∃ requests, AskedFor c service.log requests last.world ∧ requests.length ≤ _)
      file.size
      (fun spends => by
        obtain ⟨found, next, world, taken, kept, asked⟩ := spends.takeLine uncapped
        exact ⟨found, next, world, taken, kept, fun _ => asked⟩)
      (fun spends => spends.peruses.length_le_size) _ fresh
  exact ⟨last, requests, ends, asked, Nat.lt_succ_of_le few⟩

/-- A blank line and a line without a terminator, read from the blank line on in windows of two
octets. -/
theorem requests_length_lt_of_five_octets :
    ∃ last requests, Ends serviceEndpoint
        ⟨{ file := ⟨"/log", ∅⟩, formatter := OutputFormat.text.formatter,
           config := { chunkSize := 2 }, offset := 1 },
          { source := .memory (.ofBytes [0x61, 0x0A, 0x62, 0x63, 0x64]) }, []⟩ last ∧
      last.world.log = requests ∧ requests.length < 8 := by
  obtain ⟨last, requests, ends, asked, few⟩ :=
    @requests_length_lt
      { file := ⟨"/log", ∅⟩, formatter := OutputFormat.text.formatter,
        config := { chunkSize := 2 }, offset := 1 }
      { source := .memory (.ofBytes [0x61, 0x0A, 0x62, 0x63, 0x64]) }
      (.ofBytes [0x61, 0x0A, 0x62, 0x63, 0x64]) ⟨rfl, rfl, rfl⟩ rfl rfl rfl (Nat.succ_pos 1) rfl
      (Nat.le_add_right 1 4)
  exact ⟨last, requests, ends, asked.1.trans (List.append_nil requests), few⟩

end Reading

end RemoteTail

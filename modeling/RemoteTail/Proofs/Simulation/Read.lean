import RemoteTail.Proofs.Line.Laid
import RemoteTail.Proofs.Tail.Window
import RemoteTail.Proofs.Text.Boundary
import RemoteTail.Simulation.MemoryFile

/-!
# Windows of files in memory

A plain file shows the window that is asked for.  A file that keeps windows on
character boundaries may show less at both ends, and nothing at all when the
window lies inside one character.  If such a file holds text, what is left out
is never a terminator: a terminator is a character, so it begins and ends at
boundaries (`terminators_read`).

A window that begins at a boundary is shortened at its end only, by less than a
character (`read_from_boundary`).
-/

namespace RemoteTail.Simulation

namespace MemoryFile

open Bytes

/-- Whether the file may keep its windows on character boundaries. -/
def Readable (file : MemoryFile) : Prop :=
  file.charAligned = true → Utf8.IsText file.bytes

theorem isBoundary_iff {file : MemoryFile} {position : Nat} :
    file.isBoundary position = true ↔ Utf8.IsBoundary file.bytes position := by
  have same : file.bytes[position]? = file.content[position]? := Array.getElem?_toList
  rw [isBoundary, Utf8.IsBoundary, same]
  cases file.content[position]? <;> simp

/-! ## The bounds of a window -/

theorem le_boundaryFrom (file : MemoryFile) (ahead position : Nat) :
    position ≤ file.boundaryFrom ahead position := by
  induction ahead generalizing position with
  | zero => exact Nat.le_refl _
  | succ ahead ih =>
      rw [boundaryFrom]
      split
      · exact Nat.le_refl _
      · exact Nat.le_trans (Nat.le_succ _) (ih (position + 1))

/-- No boundary from the position on comes before the one that is found. -/
theorem boundaryFrom_le {file : MemoryFile} {ahead position boundary : Nat}
    (isBoundary : Utf8.IsBoundary file.bytes boundary) (after : position ≤ boundary) :
    file.boundaryFrom ahead position ≤ boundary := by
  induction ahead generalizing position with
  | zero => exact after
  | succ ahead ih =>
      rw [boundaryFrom]
      split
      · exact after
      · rename_i inside
        have other : position ≠ boundary := by
          rintro rfl
          exact inside (isBoundary_iff.mpr isBoundary)
        exact ih (by omega)

theorem boundaryBack_le (file : MemoryFile) (low position : Nat) :
    file.boundaryBack low position ≤ position := by
  induction position with
  | zero => exact Nat.le_refl _
  | succ position ih =>
      rw [boundaryBack]
      split
      · exact Nat.le_succ_of_le ih
      · exact Nat.le_refl _

/-- No boundary up to the position comes after the one that is found. -/
theorem le_boundaryBack {file : MemoryFile} {low position boundary : Nat}
    (isBoundary : Utf8.IsBoundary file.bytes boundary) (before : boundary ≤ position) :
    boundary ≤ file.boundaryBack low position := by
  induction position with
  | zero => exact before
  | succ position ih =>
      rw [boundaryBack]
      split
      · rename_i inside
        have other : boundary ≠ position + 1 := by
          rintro rfl
          simp [isBoundary_iff.mpr isBoundary] at inside
        exact ih (by omega)
      · exact before

/-- Above its lower bound, the search for a boundary ends at one. -/
theorem isBoundary_boundaryBack {file : MemoryFile} {low position : Nat}
    (above : low < file.boundaryBack low position) :
    Utf8.IsBoundary file.bytes (file.boundaryBack low position) := by
  induction position with
  | zero => exact absurd above (Nat.not_lt_zero _)
  | succ position ih =>
      rw [boundaryBack] at above ⊢
      split
      · rename_i inside
        rw [if_pos inside] at above
        exact ih above
      · rename_i outside
        rw [if_neg outside] at above
        rw [← isBoundary_iff]
        simpa [above] using outside

/-! ## What a read shows -/

theorem read_size (file : MemoryFile) : file.read .size = ⟨[], file.size⟩ :=
  rfl

/-- A plain file shows what it has from the offset on, as far as the length and the cap reach. -/
theorem read_plain {file : MemoryFile} (plain : file.charAligned = false) (offset length : Nat) :
    file.read (.bytes offset length) =
      ⟨file.bytes.slice offset (offset + min length (file.cap.getD length)), offset⟩ := by
  simp only [read, plain, Bool.false_eq_true, if_false, window_eq_slice, Chunk.mk.injEq, and_true]
  rw [← length_bytes]
  by_cases inside : offset ≤ file.bytes.length
  · rw [Nat.min_eq_left inside]
    apply List.take_eq_take_iff.mpr
    rw [List.length_drop]
    omega
  · have beyond : file.bytes.length ≤ offset := by omega
    rw [Nat.min_eq_right beyond, Nat.min_eq_right (by omega), Bytes.slice_self,
      Bytes.slice_eq_drop offset (by omega), List.drop_eq_nil_of_le beyond]

/-- A file that keeps its windows on boundaries shows the part of the window between the first and
the last boundary in it. -/
theorem read_aligned {file : MemoryFile} (aligned : file.charAligned = true)
    (uncapped : file.cap = none) (offset length : Nat) :
    ∃ first last, file.read (.bytes offset length) = ⟨file.bytes.slice first last, first⟩ ∧
      first = file.boundaryFrom (file.size - min offset file.size) (min offset file.size) ∧
      last = file.boundaryBack first (min (min offset file.size + length) file.size) := by
  refine ⟨_, _, ?_, rfl, rfl⟩
  simp only [read, aligned, uncapped, Option.getD_none, Nat.min_self, if_true, window_eq_slice]

/-- A read shows every terminator of the window that is asked for. -/
theorem terminators_read {file : MemoryFile} (uncapped : file.cap = none)
    (readable : file.Readable) (offset length : Nat) :
    (file.read (.bytes offset length)).terminators =
      (terminators (file.bytes.slice offset (offset + length))).map (offset + ·) := by
  cases aligned : file.charAligned with
  | false =>
      rw [read_plain aligned, uncapped, Option.getD_none, Nat.min_self]
      rfl
  | true =>
      obtain ⟨first, last, read_eq, first_eq, last_eq⟩ :=
        read_aligned aligned uncapped offset length
      rw [read_eq]
      change (terminators (file.bytes.slice first last)).map (first + ·) = _
      apply map_terminators_slice_eq
      intro position found
      have inside := (List.getElem?_eq_some_iff.mp found).1
      have begins := Utf8.isBoundary_of_low Utf8.newline_low found
      have ends := (readable aligned).isBoundary_succ Utf8.newline_low found
      have first_above :=
        le_boundaryFrom file (file.size - min offset file.size) (min offset file.size)
      have last_below := boundaryBack_le file first (min (min offset file.size + length) file.size)
      rw [← first_eq] at first_above
      rw [← last_eq] at last_below
      rw [length_bytes] at inside
      constructor
      · rintro ⟨after, before⟩
        constructor
        · omega
        · omega
      · rintro ⟨after, before⟩
        have first_below : first ≤ position := first_eq ▸ boundaryFrom_le begins (by omega)
        have last_above : position + 1 ≤ last := last_eq ▸ le_boundaryBack ends (by omega)
        exact ⟨first_below, last_above⟩

/-! ## Windows that begin at a boundary -/

/-- Whether a read may begin at a position without being moved. -/
def Begins (file : MemoryFile) (position : Nat) : Prop :=
  file.charAligned = true → Utf8.IsBoundary file.bytes position

/-- Whether windows of so many octets are wide enough to show that they are full. -/
def FitsWindow (file : MemoryFile) (chunkSize : Nat) : Prop :=
  0 < chunkSize ∧ (file.charAligned = true → 7 ≤ chunkSize)

theorem begins_zero {file : MemoryFile} (readable : file.Readable) : file.Begins 0 :=
  fun aligned => Utf8.isBoundary_zero (readable aligned)

/-- After a terminator, a character may begin. -/
theorem begins_of_newline {file : MemoryFile} (readable : file.Readable) {position : Nat}
    (found : file.bytes[position]? = some newline) : file.Begins (position + 1) :=
  fun aligned => (readable aligned).isBoundary_succ Utf8.newline_low found

theorem Begins.append {file : MemoryFile} {position : Nat} (begins : file.Begins position)
    (inside : position ≤ file.size) {more : Bytes}
    (moreText : file.charAligned = true → Utf8.IsText more) :
    (file.append more).Begins position := by
  intro aligned
  rw [bytes_append]
  exact (begins aligned).append (by rwa [length_bytes]) (moreText aligned)

/-- A window at `offset` that is shown up to `stop`: full, or all that there is, and without a part
of a character at its end. -/
structure Shows (file : MemoryFile) (offset chunkSize stop : Nat) : Prop where
  start_le : offset ≤ stop
  stop_le : stop ≤ file.size
  begins : file.Begins stop
  whole : stop = file.size ∨ fillsWindow (stop - offset) chunkSize = true
  stop_eq : file.charAligned = false → stop = min (offset + chunkSize) file.size

theorem Shows.length_slice {file : MemoryFile} {offset chunkSize stop : Nat}
    (shows : file.Shows offset chunkSize stop) :
    (file.bytes.slice offset stop).length = stop - offset := by
  have stop_le := shows.stop_le
  rw [Bytes.length_slice, length_bytes]
  omega

/-- From a position where a character may begin, a read is not moved. -/
theorem read_from_boundary {file : MemoryFile} (uncapped : file.cap = none)
    (readable : file.Readable) {offset chunkSize : Nat} (fits : file.FitsWindow chunkSize)
    (inside : offset ≤ file.size) (begins : file.Begins offset) :
    ∃ stop, file.read (.bytes offset chunkSize) = ⟨file.bytes.slice offset stop, offset⟩ ∧
      file.Shows offset chunkSize stop := by
  cases aligned : file.charAligned with
  | false =>
      refine ⟨min (offset + chunkSize) file.size, ?_, by omega, by omega, ?_, ?_, fun _ => rfl⟩
      · rw [read_plain aligned, uncapped, Option.getD_none, Nat.min_self]
        congr 1
        apply List.take_eq_take_iff.mpr
        rw [List.length_drop, length_bytes]
        omega
      · intro other
        rw [aligned] at other
        cases other
      · rw [fillsWindow_iff]
        omega
  | true =>
      obtain ⟨first, last, read_eq, first_eq, last_eq⟩ :=
        read_aligned aligned uncapped offset chunkSize
      rw [Nat.min_eq_left inside] at first_eq last_eq
      have first_above := le_boundaryFrom file (file.size - offset) offset
      have first_below : file.boundaryFrom (file.size - offset) offset ≤ offset :=
        boundaryFrom_le (begins aligned) (Nat.le_refl _)
      obtain rfl : first = offset := by omega
      have wide := fits.2 aligned
      have last_below := boundaryBack_le file first (min (first + chunkSize) file.size)
      have last_above : first ≤ last := last_eq ▸ le_boundaryBack (begins aligned) (by omega)
      rw [← last_eq] at last_below
      refine ⟨last, read_eq, last_above, by omega, ?_, ?_, ?_⟩
      · intro _
        rcases Nat.eq_or_lt_of_le last_above with rfl | above
        · exact begins aligned
        · rw [last_eq] at above ⊢
          exact isBoundary_boundaryBack above
      · -- A boundary within three octets of the end of the window keeps the answer long enough.
        by_cases whole : file.size ≤ first + chunkSize
        · have ends := Utf8.isBoundary_of_length_le (Nat.le_of_eq file.length_bytes)
          have reaches : file.size ≤ last := last_eq ▸ le_boundaryBack ends (by omega)
          exact .inl (by omega)
        · have within : first + chunkSize ≤ file.bytes.length := by
            rw [length_bytes]
            omega
          obtain ⟨boundary, before, near, isBoundary⟩ :=
            (readable aligned).exists_boundary_le within
          have reaches : boundary ≤ last := last_eq ▸ le_boundaryBack isBoundary (by omega)
          rw [fillsWindow_iff]
          omega
      · intro plain
        rw [aligned] at plain
        cases plain

end MemoryFile

end RemoteTail.Simulation

import Mathlib.Algebra.GroupWithZero.Nat
import Mathlib.Order.Bounds.Defs
import RemoteTail.Proofs.Simulation.Read

/-!
# Windows on character boundaries

A file that keeps its windows on character boundaries moves the start of a window on
and its end back.  Whatever the octets are, both movements come to an end, inside the
file (`Adjusts`).  In a text they leave out parts of characters only, three octets at
most at either end (`KeepsChars`).  An octet below 0x80 is a character of its own, so
it is never left out; and windows that meet show each terminator of the text once
(`read_aligned_keeps_chars`).
-/

namespace RemoteTail.Simulation

open Bytes

/-- A loop that moves a position while a condition holds: from `start` it comes to an end, at
`stop`. -/
inductive LoopEnds (goesOn : Nat → Bool) (move : Nat → Nat) : (start stop : Nat) → Prop
  | done {position : Nat} : goesOn position = false → LoopEnds goesOn move position position
  | turn {position stop : Nat} : goesOn position = true →
      LoopEnds goesOn move (move position) stop → LoopEnds goesOn move position stop

theorem LoopEnds.stays {goesOn : Nat → Bool} {move : Nat → Nat} {start stop : Nat}
    (ends : LoopEnds goesOn move start stop) : goesOn stop = false := by
  induction ends with
  | done stays => exact stays
  | turn _ _ ih => exact ih

namespace MemoryFile

/-- A file with the given octets that keeps its windows on character boundaries. -/
def aligned (octets : Bytes) : MemoryFile :=
  { content := octets.toArray, charAligned := true }

/-- Where a window of a content starts. -/
def windowStart (content : Bytes) (offset : Nat) : Nat :=
  min offset content.length

/-- Where a window of a content stops. -/
def windowStop (content : Bytes) (offset length : Nat) : Nat :=
  min (windowStart content offset + length) content.length

/-- The loops that adjust a window end with the bounds `first` and `last`, inside the content. -/
structure Adjusts (content : Bytes) (offset length first last : Nat) : Prop where
  first_ends : LoopEnds (fun position => !(aligned content).isBoundary position) (· + 1)
    (windowStart content offset) first
  last_ends : LoopEnds (fun position => first < position && !(aligned content).isBoundary position)
    (· - 1) (windowStop content offset length) last
  start_le : windowStart content offset ≤ first
  last_le : last ≤ windowStop content offset length
  inside : max first last ≤ content.length

/-- The adjusted bounds are the outermost ones between characters, unless the whole window is inside
a character, and what they show is text that has all characters of one octet. -/
structure KeepsChars (text : List Char) (offset length first last : Nat) (data : Bytes) :
    Prop where
  first_least : IsLeast {position | Utf8.BetweenChars text position ∧
    windowStart (ofChars text) offset ≤ position} first
  last_greatest : first ≤ windowStop (ofChars text) offset length →
    IsGreatest {position | Utf8.BetweenChars text position ∧ first ≤ position ∧
      position ≤ windowStop (ofChars text) offset length} last
  last_eq : windowStop (ofChars text) offset length < first →
    last = windowStop (ofChars text) offset length
  first_near : first ≤ windowStart (ofChars text) offset + 3
  last_near : windowStop (ofChars text) offset length ≤ last + 3
  isText : Utf8.IsText data
  low_kept : ∀ position octet, windowStart (ofChars text) offset ≤ position →
    position < windowStop (ofChars text) offset length →
    (ofChars text)[position]? = some octet → octet < 0x80 →
    first ≤ position ∧ data[position - first]? = some octet

/-- Reads of windows of the given lengths, each of which begins where the one before it stops. -/
def adjacentReads : (start : Nat) → List Nat → List ReadRange
  | _, [] => []
  | start, length :: lengths => .bytes start length :: adjacentReads (start + length) lengths

variable {file : MemoryFile}

/-! ## The loops -/

theorem loopEnds_boundaryFrom {ahead position : Nat} (covered : file.size ≤ position + ahead) :
    LoopEnds (fun position => !file.isBoundary position) (· + 1) position
      (file.boundaryFrom ahead position) := by
  induction ahead generalizing position with
  | zero =>
      apply LoopEnds.done
      rw [Bool.not_eq_false', isBoundary_iff]
      exact Utf8.isBoundary_of_length_le (by rwa [length_bytes])
  | succ ahead ih =>
      rw [boundaryFrom]
      split
      · rename_i boundary
        exact LoopEnds.done ((Bool.not_eq_false' _).mpr boundary)
      · rename_i inside
        exact LoopEnds.turn ((Bool.not_eq_true' _).mpr (Bool.eq_false_of_not_eq_true inside))
          (ih (by omega))

theorem loopEnds_boundaryBack (low position : Nat) :
    LoopEnds (fun position => low < position && !file.isBoundary position) (· - 1) position
      (file.boundaryBack low position) := by
  induction position with
  | zero => exact LoopEnds.done rfl
  | succ position ih =>
      rw [boundaryBack]
      split
      · rename_i goes_on
        exact LoopEnds.turn goes_on ih
      · rename_i stays
        exact LoopEnds.done (Bool.eq_false_of_not_eq_true stays)

/-! ## The bounds -/

/-- The start of a window, moved on to a boundary. -/
def firstBound (content : Bytes) (offset : Nat) : Nat :=
  (aligned content).boundaryFrom (content.length - windowStart content offset)
    (windowStart content offset)

/-- The end of a window, moved back to a boundary. -/
def lastBound (content : Bytes) (offset length : Nat) : Nat :=
  (aligned content).boundaryBack (firstBound content offset) (windowStop content offset length)

@[simp]
theorem bytes_aligned (content : Bytes) : (aligned content).bytes = content :=
  rfl

theorem readable_aligned {content : Bytes} (isText : Utf8.IsText content) :
    (aligned content).Readable :=
  fun _ => isText

/-- A window is read between its moved bounds, or is empty if they have crossed. -/
theorem read_aligned_eq (content : Bytes) (offset length : Nat) :
    (aligned content).read (.bytes offset length) =
      ⟨content.slice (firstBound content offset)
        (max (firstBound content offset) (lastBound content offset length)),
        firstBound content offset⟩ := by
  obtain ⟨first, last, read_eq, first_eq, last_eq⟩ :=
    @read_aligned (aligned content) rfl rfl offset length
  obtain rfl : first = firstBound content offset := first_eq
  obtain rfl : last = lastBound content offset length := last_eq
  rw [read_eq, bytes_aligned, slice_max]

theorem boundaryBack_of_le {low position : Nat} (crossed : position ≤ low) :
    file.boundaryBack low position = position := by
  cases position with
  | zero => rfl
  | succ position => simp [boundaryBack, Nat.not_lt_of_le crossed]

/-- Whatever the content, the loops end, and they end inside of it. -/
theorem adjusts (content : Bytes) (offset length : Nat) :
    Adjusts content offset length (firstBound content offset)
      (lastBound content offset length) where
  first_ends := by
    apply loopEnds_boundaryFrom
    change content.length ≤ _
    omega
  last_ends := loopEnds_boundaryBack _ _
  start_le := le_boundaryFrom ..
  last_le := boundaryBack_le ..
  inside := by
    apply Nat.max_le.mpr
    constructor
    · apply boundaryFrom_le
      · exact Utf8.isBoundary_of_length_le (Nat.le_refl _)
      · exact Nat.min_le_right ..
    · exact Nat.le_trans (boundaryBack_le ..) (Nat.min_le_right ..)

theorem isBoundary_firstBound (content : Bytes) (offset : Nat) :
    Utf8.IsBoundary content (firstBound content offset) := by
  have stays := (adjusts content offset 0).first_ends.stays
  exact isBoundary_iff.mp ((Bool.not_eq_false' _).mp stays)

/-- The window stops at a boundary, also if its bounds have crossed. -/
theorem isBoundary_max (content : Bytes) (offset length : Nat) :
    Utf8.IsBoundary content
      (max (firstBound content offset) (lastBound content offset length)) := by
  by_cases above : firstBound content offset < lastBound content offset length
  · rw [Nat.max_eq_right (Nat.le_of_lt above)]
    exact isBoundary_boundaryBack above
  · rw [Nat.max_eq_left (Nat.le_of_not_lt above)]
    exact isBoundary_firstBound content offset

/-! ## Texts -/

variable {text : List Char} {offset length : Nat}

/-- A position between characters is a boundary, so no bound is moved past it. -/
theorem firstBound_le {position : Nat} (between : Utf8.BetweenChars text position)
    (after : windowStart (ofChars text) offset ≤ position) :
    firstBound (ofChars text) offset ≤ position :=
  boundaryFrom_le ((Utf8.isBoundary_iff_betweenChars between.le_length).mpr between) after

theorem le_lastBound {position : Nat} (between : Utf8.BetweenChars text position)
    (before : position ≤ windowStop (ofChars text) offset length) :
    position ≤ lastBound (ofChars text) offset length :=
  le_boundaryBack ((Utf8.isBoundary_iff_betweenChars between.le_length).mpr between) before

theorem betweenChars_firstBound (text : List Char) (offset : Nat) :
    Utf8.BetweenChars text (firstBound (ofChars text) offset) := by
  have inside := (Nat.max_le.mp (adjusts (ofChars text) offset 0).inside).1
  exact (Utf8.isBoundary_iff_betweenChars inside).mp (isBoundary_firstBound _ _)

/-- A window of a text shows all of its characters, and no part of another. -/
theorem keepsChars (text : List Char) (offset length : Nat) :
    KeepsChars text offset length (firstBound (ofChars text) offset)
      (lastBound (ofChars text) offset length)
      ((ofChars text).slice (firstBound (ofChars text) offset)
        (max (firstBound (ofChars text) offset) (lastBound (ofChars text) offset length))) where
  first_least := by
    refine ⟨⟨betweenChars_firstBound text offset, le_boundaryFrom ..⟩, ?_⟩
    rintro position ⟨between, after⟩
    exact firstBound_le between after
  last_greatest := by
    intro uncrossed
    have above := le_lastBound (betweenChars_firstBound text offset) uncrossed
    have inside := (Nat.max_le.mp (adjusts (ofChars text) offset length).inside).2
    have boundary := isBoundary_max (ofChars text) offset length
    rw [Nat.max_eq_right above, Utf8.isBoundary_iff_betweenChars inside] at boundary
    refine ⟨⟨boundary, above, boundaryBack_le ..⟩, ?_⟩
    rintro position ⟨between, _, before⟩
    exact le_lastBound between before
  last_eq crossed := boundaryBack_of_le (Nat.le_of_lt crossed)
  first_near := by
    obtain ⟨boundary, after, near, _, isBoundary⟩ :=
      Utf8.IsText.exists_boundary_ge ⟨text, rfl⟩ (Nat.min_le_right offset _)
    exact Nat.le_trans (boundaryFrom_le isBoundary after) near
  last_near := by
    obtain ⟨boundary, before, near, isBoundary⟩ :=
      Utf8.IsText.exists_boundary_le ⟨text, rfl⟩
        (Nat.min_le_right (windowStart (ofChars text) offset + length) _)
    have reached : boundary ≤ lastBound (ofChars text) offset length :=
      le_boundaryBack isBoundary before
    exact Nat.le_trans near (Nat.add_le_add_right reached 3)
  isText := Utf8.IsText.slice ⟨text, rfl⟩ (isBoundary_firstBound _ _) (isBoundary_max _ _ _)
    (Nat.le_max_left ..)
  low_kept := by
    intro position octet after before found low
    have begins : firstBound (ofChars text) offset ≤ position :=
      boundaryFrom_le (Utf8.isBoundary_of_low low found) after
    have ends : position + 1 ≤ lastBound (ofChars text) offset length :=
      le_boundaryBack (Utf8.IsText.isBoundary_succ ⟨text, rfl⟩ low found) before
    have position_eq : firstBound (ofChars text) offset +
        (position - firstBound (ofChars text) offset) = position :=
      Nat.add_sub_cancel' begins
    refine ⟨begins, ?_⟩
    rw [getElem?_slice _ (by omega), position_eq, found]

/-! ## Windows that meet -/

/-- Windows that meet show the terminators of the stretch that they cover. -/
theorem terminators_adjacentReads (uncapped : file.cap = none) (readable : file.Readable)
    {start : Nat} {lengths : List Nat} (inside : start + lengths.sum ≤ file.size) :
    terminators (file.bytes.take start) ++
        (adjacentReads start lengths).flatMap (fun range => (file.read range).terminators) =
      terminators (file.bytes.take (start + lengths.sum)) := by
  induction lengths generalizing start with
  | nil => simp [adjacentReads]
  | cons length lengths ih =>
      rw [List.sum_cons] at inside ⊢
      rw [adjacentReads, List.flatMap_cons, terminators_read uncapped readable, ← List.append_assoc,
        ← terminators_take (Nat.le_add_right start length) (by rw [length_bytes]; omega),
        ih (by omega), Nat.add_assoc]

/-- Reads of a file that keeps its windows on character boundaries: the loops end inside the
content; in a text they leave out less than a character at either end, and no octet below 0x80; and
windows that meet and cover the text show each of its terminators once, where it is. -/
theorem read_aligned_keeps_chars (content : Bytes) :
    (∀ offset length, ∃ first last,
      (aligned content).read (.bytes offset length) =
          ⟨content.slice first (max first last), first⟩ ∧
        Adjusts content offset length first last ∧
        ∀ text, content = ofChars text →
          KeepsChars text offset length first last (content.slice first (max first last))) ∧
    (Utf8.IsText content → ∀ lengths, lengths.sum = content.length →
      (adjacentReads 0 lengths).flatMap (fun range => ((aligned content).read range).terminators) =
        terminators content) := by
  constructor
  · intro offset length
    refine ⟨_, _, read_aligned_eq content offset length, adjusts content offset length, ?_⟩
    rintro text rfl
    exact keepsChars text offset length
  · intro isText lengths covers
    have shown := @terminators_adjacentReads (aligned content) rfl (readable_aligned isText) 0
      lengths (Nat.le_of_eq (by rw [Nat.zero_add, covers]; rfl))
    rw [Nat.zero_add, covers, bytes_aligned, List.take_length] at shown
    exact shown

/-- A window that begins in the second octet of one character and stops behind the first of another:
only the terminator between them is shown.  With its neighbours it shows it once. -/
theorem read_aligned_keeps_chars_of_cut_chars :
    [0x61, 0xC3, 0xA9, 0x0A, 0xE2, 0x9C, 0x93] = ofChars ['a', 'é', '\n', '✓'] ∧
      (aligned [0x61, 0xC3, 0xA9, 0x0A, 0xE2, 0x9C, 0x93]).read (.bytes 2 3) = ⟨[0x0A], 3⟩ ∧
      (∃ first last, KeepsChars ['a', 'é', '\n', '✓'] 2 3 first last
        (slice first (max first last) [0x61, 0xC3, 0xA9, 0x0A, 0xE2, 0x9C, 0x93])) ∧
      [2, 3, 2].sum = ([0x61, 0xC3, 0xA9, 0x0A, 0xE2, 0x9C, 0x93] : Bytes).length ∧
      (adjacentReads 0 [2, 3, 2]).flatMap (fun range =>
        ((aligned [0x61, 0xC3, 0xA9, 0x0A, 0xE2, 0x9C, 0x93]).read range).terminators) = [3] := by
  have content_eq : [0x61, 0xC3, 0xA9, 0x0A, 0xE2, 0x9C, 0x93] = ofChars ['a', 'é', '\n', '✓'] := by
    decide
  obtain ⟨windows, adjacent⟩ := read_aligned_keeps_chars [0x61, 0xC3, 0xA9, 0x0A, 0xE2, 0x9C, 0x93]
  obtain ⟨first, last, _, _, keeps⟩ := windows 2 3
  refine ⟨content_eq, by decide, ⟨first, last, keeps _ content_eq⟩, rfl, ?_⟩
  exact (adjacent ⟨_, content_eq⟩ [2, 3, 2] rfl).trans (by decide)

end MemoryFile

end RemoteTail.Simulation

import RemoteTail.Proofs.Simulation.Steady
import RemoteTail.Proofs.Tail.Search

/-!
# The tail search with capped answers

An endpoint may end a window early.  The search counts the terminators that an
answer shows and goes on with the window before, so it never looks at what lies
between the end of an answer and the end of its window.

A position is answered if it lies in the part of its window that the cap leaves
(`IsAnswered`).  In a plain file with a cap, the search finds the terminator
that is wanted among those that are answered (`locateTail_capped`).  So it finds
the tail if the last `wanted + 1` terminators are all answered, or if there are
not that many, and in no other case (`locateTail_capped_eq_tailOffset_iff`).  It
finds the tail of every file exactly if the cap is no narrower than a window
(`forall_locateTail_capped_iff`).
-/

namespace RemoteTail

open Simulation Bytes

namespace TailSearch

/-! ## What a cap leaves of the windows -/

/-- The start of the window in which the search from `stop` asks for a position. -/
def windowStart (stop chunkSize position : Nat) : Nat :=
  stop - ((stop - 1 - position) / chunkSize + 1) * chunkSize

/-- Whether a position lies within the first `cap` octets of its window. -/
def IsAnswered (cap stop chunkSize position : Nat) : Prop :=
  position < windowStart stop chunkSize position + cap

instance (cap stop chunkSize position : Nat) : Decidable (IsAnswered cap stop chunkSize position) :=
  inferInstanceAs (Decidable (_ < _))

/-- The terminators before `stop` that the search from there is shown. -/
def answeredTerminators (content : Bytes) (cap chunkSize stop : Nat) : List Nat :=
  (terminators (content.take stop)).filter fun position => IsAnswered cap stop chunkSize position

/-- Of the window at `stop`, the first `cap` octets are answered. -/
theorem isAnswered_of_le {cap stop chunkSize position : Nat} (after : stop - chunkSize ≤ position)
    (before : position < stop) :
    IsAnswered cap stop chunkSize position ↔ position < stop - chunkSize + cap := by
  have near : stop - 1 - position < chunkSize := by omega
  rw [IsAnswered, windowStart, Nat.div_eq_of_lt near, Nat.zero_add, Nat.one_mul]

/-- Before the window at `stop`, the search asks as it does from the start of that window. -/
theorem isAnswered_of_lt {cap stop chunkSize position : Nat} (positive : 0 < chunkSize)
    (before : position < stop - chunkSize) :
    IsAnswered cap stop chunkSize position ↔
      IsAnswered cap (stop - chunkSize) chunkSize position := by
  have distance : stop - 1 - position = stop - chunkSize - 1 - position + chunkSize := by omega
  rw [IsAnswered, IsAnswered, windowStart, windowStart, distance, Nat.add_div_right _ positive,
    Nat.add_mul _ 1, Nat.one_mul, Nat.add_comm _ chunkSize, Nat.sub_add_eq]

/-- Under a cap that is no narrower than a window, everything is answered. -/
theorem isAnswered_of_chunkSize_le {cap stop chunkSize position : Nat} (wide : chunkSize ≤ cap)
    (before : position < stop) : IsAnswered cap stop chunkSize position := by
  have whole_windows := Nat.div_mul_le_self (stop - 1 - position) chunkSize
  rw [IsAnswered, windowStart, Nat.add_mul, Nat.one_mul]
  omega

/-- A window adds to the answered terminators before it those that its answer shows. -/
theorem answeredTerminators_eq_append {file : MemoryFile} (plain : file.charAligned = false)
    {cap : Nat} (capped : file.cap = some cap) {chunkSize stop : Nat} (positive : 0 < chunkSize)
    (inside : stop ≤ file.bytes.length) :
    answeredTerminators file.bytes cap chunkSize stop =
      answeredTerminators file.bytes cap chunkSize (stop - chunkSize) ++
        (file.read (.bytes (stop - chunkSize) (stop - (stop - chunkSize)))).terminators := by
  rw [MemoryFile.read_plain plain, capped, Option.getD_some, answeredTerminators,
    terminators_take (Nat.sub_le stop chunkSize) (Nat.le_trans (Nat.sub_le ..) inside),
    List.filter_append]
  congr 1
  · apply List.filter_congr
    intro position member
    have before := (List.getElem?_eq_some_iff.mp (mem_terminators_iff.mp member)).1
    rw [List.length_take] at before
    rw [decide_eq_decide]
    exact isAnswered_of_lt positive (by omega)
  · -- Both sides list the same positions of the file in increasing order.
    have increasing : ∀ offset bytes, ((terminators bytes).map (offset + ·)).Pairwise (· < ·) := by
      intro offset bytes
      apply (pairwise_terminators bytes).map
      intro _ _ less
      exact Nat.add_lt_add_left less offset
    apply ((increasing _ _).filter _).eq_of_mem_iff (increasing _ _)
    intro position
    rw [List.mem_filter, decide_eq_true_iff]
    simp only [mem_map_terminators_slice_iff]
    constructor
    · rintro ⟨⟨after, before, found⟩, answered⟩
      rw [isAnswered_of_le after before] at answered
      exact ⟨after, by omega, found⟩
    · rintro ⟨after, before, found⟩
      have within : position < stop := by omega
      exact ⟨⟨after, within, found⟩, (isAnswered_of_le after within).mpr (by omega)⟩

/-! ## The search -/

section

variable {service : Service ReadReply} {file : MemoryFile} {cap : Nat}

/-- The search goes by the answered terminators before `stop`. -/
theorem searchBack_capped {remote : RemoteFile} {wanted chunkSize budget stop met : Nat}
    (steady : service.Steady file) (answering : service.treatment = .answered)
    (plain : file.charAligned = false) (capped : file.cap = some cap) (positive : 0 < chunkSize)
    (inside : stop ≤ file.bytes.length) (pending : met ≤ wanted)
    (enough : stop ≤ budget * chunkSize) :
    ((searchBack serviceEndpoint remote wanted chunkSize budget stop met).run service).1 =
      some (.ok (((answeredTerminators file.bytes cap chunkSize stop).reverse[wanted - met]?).elim
        0 (· + 1))) := by
  induction budget generalizing stop met service with
  | zero =>
      obtain rfl : stop = 0 := by omega
      rw [searchBack_zero]
      rfl
  | succ budget ih =>
      cases stop with
      | zero =>
          rw [searchBack_zero]
          rfl
      | succ stop =>
          rw [searchBack_run, RemoteFile.fetch, steady.read, answering,
            answeredTerminators_eq_append plain capped positive inside, List.reverse_append]
          simp only [Treatment.reply?, scanWindow_split pending]
          have reached : stop + 1 - chunkSize ≤ budget * chunkSize := by
            rw [Nat.succ_mul] at enough
            omega
          have before : stop + 1 - chunkSize ≤ file.bytes.length :=
            Nat.le_trans (Nat.sub_le ..) inside
          generalize stop + 1 - (stop + 1 - chunkSize) = length
          generalize stop + 1 - chunkSize = start at reached before
          generalize file.read (.bytes start length) = chunk
          cases found : chunk.terminators.reverse[wanted - met]? with
          | some terminator =>
              have here := (List.getElem?_eq_some_iff.mp found).1
              rw [List.getElem?_append_left here, found]
              rfl
          | none =>
              have few := List.getElem?_eq_none_iff.mp found
              have still : met + chunk.terminators.length ≤ wanted := by
                rw [List.length_reverse] at few
                omega
              rw [List.getElem?_append_right few, List.length_reverse, Nat.sub_sub]
              exact ih (steady.called _) answering before still reached

/-- In a plain file with a cap, the search goes by the terminators that are answered. -/
theorem locateTail_capped (steady : service.Steady file)
    (answering : service.treatment = .answered) (plain : file.charAligned = false)
    (capped : file.cap = some cap) (remote : RemoteFile) {wanted chunkSize : Nat}
    (some_line : 0 < wanted) (positive : 0 < chunkSize) (patience : Nat) :
    ((remote.locateTail serviceEndpoint wanted chunkSize patience).run service).1 =
      some (.ok (((answeredTerminators file.bytes cap chunkSize file.size).reverse[wanted]?).elim
        0 (· + 1))) := by
  rw [RemoteFile.locateTail_run, steady.read, answering]
  simp only [Treatment.reply?, MemoryFile.read_size, Nat.ne_of_gt some_line, if_false]
  exact searchBack_capped (steady.called _) answering plain capped positive
    (Nat.le_of_eq file.length_bytes.symm) (Nat.zero_le wanted)
    (covered positive file.size patience)

end

/-! ## Where the search finds the tail -/

/-- Leaving elements out of a list without duplicates keeps an element at its index only if none up
to there is left out. -/
theorem getElem?_filter_append_eq_iff {before after : List Nat} {last : Nat}
    (distinct : (before ++ last :: after).Nodup) (kept : Nat → Bool) :
    ((before ++ last :: after).filter kept)[before.length]? = some last ↔
      ∀ position ∈ before ++ [last], kept position = true := by
  have not_after : last ∉ after := (List.nodup_cons.mp (List.nodup_append.mp distinct).2.1).1
  have shorter := List.length_filter_le kept before
  rw [List.filter_append, List.getElem?_append_right shorter]
  constructor
  · intro same
    have last_kept := (List.mem_filter.mp (List.mem_of_getElem? same)).2
    rw [List.filter_cons_of_pos last_kept] at same
    cases gap : before.length - (before.filter kept).length with
    | zero =>
        have before_kept := List.length_filter_eq_length_iff.mp
          (show (before.filter kept).length = before.length by omega)
        rw [List.forall_mem_append, List.forall_mem_singleton]
        exact ⟨before_kept, last_kept⟩
    | succ gap' =>
        rw [gap, List.getElem?_cons_succ] at same
        exact absurd (List.mem_filter.mp (List.mem_of_getElem? same)).1 not_after
  · rw [List.forall_mem_append, List.forall_mem_singleton]
    rintro ⟨before_kept, last_kept⟩
    rw [List.filter_eq_self.mpr before_kept, List.filter_cons_of_pos last_kept, Nat.sub_self]
    rfl

theorem getElem?_filter_eq_iff {positions : List Nat} (distinct : positions.Nodup)
    (kept : Nat → Bool) (index : Nat) :
    (positions.filter kept)[index]? = positions[index]? ↔
      positions.length ≤ index ∨ ∀ position ∈ positions.take (index + 1), kept position = true := by
  cases found : positions[index]? with
  | none =>
      have few := List.getElem?_eq_none_iff.mp found
      rw [List.getElem?_eq_none_iff]
      exact iff_of_true (Nat.le_trans (List.length_filter_le ..) few) (.inl few)
  | some last =>
      obtain ⟨inside, last_eq⟩ := List.getElem?_eq_some_iff.mp found
      have parts : positions.take index ++ last :: positions.drop (index + 1) = positions := by
        rw [← last_eq, List.getElem_cons_drop, List.take_append_drop]
      have length_before : (positions.take index).length = index := by
        rw [List.length_take]
        omega
      have same := getElem?_filter_append_eq_iff (parts.symm ▸ distinct) kept
      rw [parts, length_before] at same
      rw [same, or_iff_right (Nat.not_le_of_lt inside), List.take_add_one, found,
        Option.toList_some]

/-- The search finds the tail exactly if it is shown the terminator right before the tail and all
that come after, or if there is no such terminator. -/
theorem elim_answeredTerminators_eq_tailOffset_iff {content : Bytes} {cap chunkSize wanted : Nat} :
    ((answeredTerminators content cap chunkSize content.length).reverse[wanted]?).elim 0 (· + 1) =
        content.tailOffset wanted ↔
      (terminators content).length ≤ wanted ∨
        ∀ position ∈ (terminators content).reverse.take (wanted + 1),
          IsAnswered cap content.length chunkSize position := by
  have distinct : (terminators content).reverse.Nodup :=
    List.nodup_reverse.mpr ((pairwise_terminators content).imp Nat.ne_of_lt)
  have elim_inj : ∀ first second : Option Nat,
      first.elim 0 (· + 1) = second.elim 0 (· + 1) ↔ first = second := by
    intro first second
    cases first <;> cases second <;> simp
  rw [tailOffset, elim_inj, answeredTerminators, List.take_length, ← List.filter_reverse,
    getElem?_filter_eq_iff distinct, List.length_reverse]
  simp only [decide_eq_true_iff]

end TailSearch

namespace RemoteFile

open TailSearch

/-- With capped answers, the search finds the tail exactly if the last `wanted + 1` terminators are
all answered, or if there are not that many. -/
theorem locateTail_capped_eq_tailOffset_iff {service : Service ReadReply} {file : MemoryFile}
    {cap : Nat} (steady : service.Steady file) (answering : service.treatment = .answered)
    (plain : file.charAligned = false) (capped : file.cap = some cap) (remote : RemoteFile)
    {wanted chunkSize : Nat} (some_line : 0 < wanted) (positive : 0 < chunkSize) (patience : Nat) :
    ((remote.locateTail serviceEndpoint wanted chunkSize patience).run service).1 =
        some (.ok (file.bytes.tailOffset wanted)) ↔
      (terminators file.bytes).length ≤ wanted ∨
        ∀ position ∈ (terminators file.bytes).reverse.take (wanted + 1),
          IsAnswered cap file.size chunkSize position := by
  rw [locateTail_capped steady answering plain capped remote some_line positive, Option.some_inj,
    Except.ok.injEq, ← MemoryFile.length_bytes, elim_answeredTerminators_eq_tailOffset_iff]

/-- Four lines in one window, of which the cap leaves the first two. -/
def fourLines : MemoryFile :=
  { content := #[0x61, 0x0A, 0x62, 0x0A, 0x63, 0x0A, 0x64, 0x0A], cap := some 4 }

/-- In windows as wide as the cap, the search finds the last line. -/
theorem locateTail_capped_eq_tailOffset_iff_of_fourLines :
    ((locateTail ⟨"file", ∅⟩ serviceEndpoint 1 4 0).run { source := .memory fourLines }).1 =
      some (.ok 6) := by
  have steady : ({ source := .memory fourLines } : Service ReadReply).Steady fourLines :=
    ⟨rfl, rfl, rfl⟩
  have capped : fourLines.cap = some 4 := rfl
  refine (locateTail_capped_eq_tailOffset_iff steady rfl rfl capped ⟨"file", ∅⟩ Nat.one_pos
    (show 0 < 4 by decide) 0).mpr (.inr ?_)
  decide

/-- In a window twice as wide as the cap, it takes the last line that it is shown for the last line
of the file. -/
theorem locateTail_of_fourLines_of_wide_window :
    ((locateTail ⟨"file", ∅⟩ serviceEndpoint 1 8 0).run { source := .memory fourLines }).1 =
        some (.ok 2) ∧
      fourLines.bytes.tailOffset 1 = 6 := by
  constructor
  · rfl
  · decide

/-- The search finds the tail of every file exactly if the cap is no narrower than a window. -/
theorem forall_locateTail_capped_iff {cap chunkSize : Nat} (remote : RemoteFile)
    (positive : 0 < chunkSize) (patience : Nat) :
    (∀ (content : Bytes) (wanted : Nat), 0 < wanted →
      ((remote.locateTail serviceEndpoint wanted chunkSize patience).run
          { source := .memory { content := content.toArray, cap := some cap } }).1 =
        some (.ok (content.tailOffset wanted))) ↔
      chunkSize ≤ cap := by
  have run_eq : ∀ (content : Bytes) (wanted : Nat), 0 < wanted →
      ((remote.locateTail serviceEndpoint wanted chunkSize patience).run
          { source := .memory { content := content.toArray, cap := some cap } }).1 =
        some (.ok
          (((answeredTerminators content cap chunkSize content.length).reverse[wanted]?).elim
            0 (· + 1))) := by
    intro content wanted some_line
    let file : MemoryFile := { content := content.toArray, cap := some cap }
    have steady : ({ source := .memory file } : Service ReadReply).Steady file := ⟨rfl, rfl, rfl⟩
    exact locateTail_capped steady rfl rfl rfl remote some_line positive patience
  constructor
  · intro found
    -- With one blank line more than a window has octets, the last octet of the first window is
    -- a terminator.
    let blank : Bytes := List.replicate chunkSize newline ++ [newline]
    have shown := found blank 1 Nat.one_pos
    rw [run_eq blank 1 Nat.one_pos, Option.some_inj, Except.ok.injEq,
      elim_answeredTerminators_eq_tailOffset_iff] at shown
    have length_eq : blank.length = chunkSize + 1 := by simp [blank]
    have counted : (terminators blank).length = chunkSize + 1 := by
      simp [length_terminators, blank]
    have last_met : chunkSize ∈ (terminators blank).reverse.take (1 + 1) := by
      have last_eq : terminators [newline] = [0] := by decide
      simp [blank, terminators_append, last_eq]
    have answered := shown.resolve_left (by omega) chunkSize last_met
    rw [length_eq, isAnswered_of_le (Nat.sub_le_of_le_add (by omega)) (by omega)] at answered
    omega
  · intro wide content wanted some_line
    rw [run_eq content wanted some_line, Option.some_inj, Except.ok.injEq,
      elim_answeredTerminators_eq_tailOffset_iff]
    right
    intro position member
    have found := mem_terminators_iff.mp (List.mem_reverse.mp (List.mem_of_mem_take member))
    exact isAnswered_of_chunkSize_le wide (List.getElem?_eq_some_iff.mp found).1

end RemoteFile

end RemoteTail

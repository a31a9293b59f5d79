import RemoteTail.Proofs.Line.Division
import RemoteTail.Proofs.Tail.Window

/-!
# Splits from the back

The terminators of a chunk separate it into parts, one more than there are
terminators, and the parts are the only ones (`separates_iff`).  Read from the back,
the same terminators end all parts but the first, the last part first
(`Separates.divides_reverse`).  So a split from the back has as many lines as one
from the front, withholds the first part, and its spans lead from the end of the
chunk to each of its terminators (`split_backward_reverses`).
-/

namespace RemoteTail

open Bytes

/-- The octets are the parts with a terminator between each two neighbours, and there are no other
terminators. -/
structure Separates (raw : Bytes) (parts : List Bytes) : Prop where
  rejoins : [newline].intercalate parts = raw
  whole : ∀ part ∈ parts, newline ∉ part

/-- The lines of a split from the back are the parts of the chunk behind the first, the last one
first and each of them backwards, and their spans lead from the end of the chunk to its
terminators. -/
structure Split.Reverses (found : Split) (raw first : Bytes) (others : List Bytes) : Prop where
  length_lines : found.lines.length = others.length
  messages_eq : found.messages.map List.reverse = others.reverse
  withheld_eq : found.withheld = first.length
  terminator_eq : ∀ index < others.length, ∃ position,
    raw.terminators.reverse[index]? = some position ∧
      position + Line.spans (found.lines.take (index + 1)) = raw.length

variable {raw first rest : Bytes} {messages others parts : List Bytes}

/-! ## Parts -/

/-- Messages and a rest are parts if the terminators are counted to the parts before them. -/
theorem intercalate_concat (messages : List Bytes) (rest : Bytes) :
    [newline].intercalate (messages ++ [rest]) = join messages ++ rest := by
  induction messages with
  | nil => exact List.intercalate_singleton
  | cons message messages ih =>
      obtain ⟨next, more, cons_eq⟩ := List.exists_cons_of_ne_nil
        (List.append_ne_nil_of_right_ne_nil messages (List.cons_ne_nil rest []))
      rw [cons_eq] at ih
      rw [List.cons_append, cons_eq, List.intercalate_cons_cons, ih, join_cons]
      simp

/-- The terminators may as well be counted to the parts after them. -/
theorem intercalate_cons (first : Bytes) (others : List Bytes) :
    [newline].intercalate (first :: others) = first ++ others.flatMap (newline :: ·) := by
  induction others generalizing first with
  | nil => simp
  | cons part others ih =>
      rw [List.intercalate_cons_cons, ih, List.flatMap_cons, List.append_assoc]
      rfl

theorem separates_concat_iff :
    Separates raw (messages ++ [rest]) ↔ Divides raw messages rest := by
  constructor
  · rintro ⟨rejoins, whole⟩
    rw [intercalate_concat] at rejoins
    rw [List.forall_mem_append, List.forall_mem_singleton] at whole
    exact ⟨rejoins, whole.1, whole.2⟩
  · rintro ⟨rejoins, whole, unended⟩
    refine ⟨(intercalate_concat messages rest).trans rejoins, ?_⟩
    rw [List.forall_mem_append, List.forall_mem_singleton]
    exact ⟨whole, unended⟩

/-- The parts of a chunk are those that the cut finds, and the rest behind them. -/
theorem separates_iff (some_part : parts ≠ []) :
    Separates raw parts ↔ parts = (cut raw).1 ++ [(cut raw).2] := by
  obtain ⟨messages, rest, rfl⟩ := (List.eq_nil_or_concat parts).resolve_left some_part
  rw [List.concat_eq_append, separates_concat_iff, divides_iff, List.append_singleton_inj,
    Prod.ext_iff]
  exact and_congr eq_comm eq_comm

/-- Backwards, a chunk divides into all of its parts but the first, and the first is left. -/
theorem Separates.divides_reverse (separates : Separates raw (first :: others)) :
    Divides raw.reverse (others.reverse.map List.reverse) first.reverse where
  rejoins := by
    rw [← separates.rejoins, intercalate_cons, List.reverse_append, List.reverse_flatMap, join,
      List.flatMap_map]
    simp [Function.comp_def]
  whole message member := by
    obtain ⟨part, among, rfl⟩ := List.mem_map.mp member
    rw [List.mem_reverse] at among ⊢
    exact separates.whole part (List.mem_cons_of_mem first among)
  unended := by
    rw [List.mem_reverse]
    exact separates.whole first List.mem_cons_self

/-! ## Positions -/

/-- Each position that is found from the end is as far from the end as the messages up to it, and
their terminators, are long. -/
theorem TailSearch.getElem?_terminatorsBack {stop index : Nat} (inside : index < messages.length)
    (room : (join messages).length ≤ stop) :
    ∃ position, (terminatorsBack stop messages)[index]? = some position ∧
      position + (join (messages.take (index + 1))).length = stop := by
  induction messages generalizing stop index with
  | nil => cases inside
  | cons message messages ih =>
      rw [length_join_cons] at room
      cases index with
      | zero =>
          refine ⟨_, rfl, ?_⟩
          rw [List.take_succ_cons, length_join_cons, List.take_zero, join_nil, List.length_nil]
          omega
      | succ index =>
          obtain ⟨position, found, position_eq⟩ :=
            @ih (stop - (message.length + 1)) index (Nat.lt_of_succ_lt_succ inside) (by omega)
          refine ⟨position, found, ?_⟩
          rw [List.take_succ_cons, length_join_cons]
          omega

theorem take_layLines (base : Nat) (messages : List Bytes) (count : Nat) :
    (layLines base messages).take count = layLines base (messages.take count) := by
  induction messages generalizing base count with
  | nil => simp [layLines]
  | cons message messages ih =>
      cases count with
      | zero => rfl
      | succ count => rw [layLines, List.take_succ_cons, List.take_succ_cons, ih, layLines]

/-! ## Splits from the back -/

theorem Separates.cut_reverse (separates : Separates raw (first :: others)) :
    cut raw.reverse = (others.reverse.map List.reverse, first.reverse) :=
  divides_iff.mp separates.divides_reverse

theorem Separates.length_cut_reverse (separates : Separates raw (first :: others)) :
    (cut raw.reverse).1.length = others.length := by
  rw [separates.cut_reverse, List.length_map, List.length_reverse]

theorem Separates.reverses (separates : Separates raw (first :: others)) (base : Nat) :
    (split raw base .backward).Reverses raw first others where
  length_lines := (length_lines_split raw base .backward).trans separates.length_cut_reverse
  messages_eq := by
    change ((layLines base (cut raw.reverse).1).map Line.message).map List.reverse = _
    rw [map_message_layLines, separates.cut_reverse, List.map_map]
    simp
  withheld_eq := by
    change (cut raw.reverse).2.length = _
    rw [separates.cut_reverse, List.length_reverse]
  terminator_eq := by
    intro index inside
    have room : (join (cut raw.reverse).1).length ≤ raw.length :=
      Nat.le_of_add_right_le (Nat.le_of_eq (length_join_cut .backward raw))
    have positions : TailSearch.terminatorsBack raw.length (cut raw.reverse).1 =
        raw.terminators.reverse := by
      simpa using TailSearch.terminatorsBack_cut_reverse 0 raw
    obtain ⟨position, found, position_eq⟩ :=
      TailSearch.getElem?_terminatorsBack (separates.length_cut_reverse ▸ inside) room
    refine ⟨position, positions ▸ found, ?_⟩
    change position + Line.spans ((layLines base (cut raw.reverse).1).take (index + 1)) = _
    rw [take_layLines, spans_layLines]
    exact position_eq

/-- Every chunk is separated into parts in one way, as messages and rest of a split from the front.
A split from the back reverses the parts behind the first, within the words if the chunk ends there,
and has as many lines as the one from the front. -/
theorem split_backward_reverses (raw : Bytes) (base : Nat) :
    ∃ first others found, Separates raw (first :: others) ∧
      (∀ parts, parts ≠ [] → Separates raw parts → parts = first :: others) ∧
      split raw base .backward = found ∧
      (base + raw.length < 2 ^ 64 → split? raw base .backward = some found) ∧
      found.Reverses raw first others ∧
      (split raw base .forward).messages ++ [(split raw base .forward).rest raw] =
        first :: others ∧
      (split raw base .forward).lines.length = found.lines.length := by
  obtain ⟨first, others, parts_eq⟩ := List.exists_cons_of_ne_nil
    (List.append_ne_nil_of_right_ne_nil (cut raw).1 (List.cons_ne_nil (cut raw).2 []))
  have separates : Separates raw (first :: others) :=
    (separates_iff (List.cons_ne_nil first others)).mpr parts_eq.symm
  have reverses := separates.reverses base
  refine ⟨first, others, _, separates, ?_, rfl, (split?_eq · .backward), reverses, ?_, ?_⟩
  · intro parts some_part separates'
    rw [← parts_eq]
    exact (separates_iff some_part).mp separates'
  · rw [messages_split_forward, rest_split_forward, parts_eq]
  · have lengths := congrArg List.length parts_eq
    rw [List.length_append, List.length_singleton, List.length_cons] at lengths
    rw [reverses.length_lines, length_lines_split]
    exact Nat.succ.inj lengths

/-- Three parts, of one, two and three octets: the last two come out, the first is withheld. -/
theorem split_backward_reverses_of_three_parts :
    0 + ([0x61, 0x0A, 0x62, 0x63, 0x0A, 0x64, 0x65, 0x66] : Bytes).length < 2 ^ 64 ∧
      Separates [0x61, 0x0A, 0x62, 0x63, 0x0A, 0x64, 0x65, 0x66]
        [[0x61], [0x62, 0x63], [0x64, 0x65, 0x66]] ∧
      (split [0x61, 0x0A, 0x62, 0x63, 0x0A, 0x64, 0x65, 0x66] 0 .backward).Reverses
        [0x61, 0x0A, 0x62, 0x63, 0x0A, 0x64, 0x65, 0x66]
        [0x61] [[0x62, 0x63], [0x64, 0x65, 0x66]] ∧
      split? [0x61, 0x0A, 0x62, 0x63, 0x0A, 0x64, 0x65, 0x66] 0 .backward =
        some ⟨[⟨[0x66, 0x65, 0x64], 0, true⟩, ⟨[0x63, 0x62], 4, true⟩], 1⟩ := by
  have fits : 0 + ([0x61, 0x0A, 0x62, 0x63, 0x0A, 0x64, 0x65, 0x66] : Bytes).length < 2 ^ 64 := by
    decide
  have separates : Separates [0x61, 0x0A, 0x62, 0x63, 0x0A, 0x64, 0x65, 0x66]
      [[0x61], [0x62, 0x63], [0x64, 0x65, 0x66]] :=
    ⟨by decide, by decide⟩
  obtain ⟨_, _, _, _, unique, rfl, within, reverses, _, _⟩ :=
    split_backward_reverses [0x61, 0x0A, 0x62, 0x63, 0x0A, 0x64, 0x65, 0x66] 0
  obtain ⟨rfl, rfl⟩ := List.cons.inj (unique _ (List.cons_ne_nil _ _) separates)
  exact ⟨fits, separates, reverses, within fits⟩

end RemoteTail

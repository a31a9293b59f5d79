import Mathlib.Data.List.Induction
import RemoteTail.Proofs.Line.Terminators
import RemoteTail.Tail.Search

/-!
# One window of the tail search

A window that is split backwards shows its terminators by the spans of its
lines alone.  `terminatorsBack` sums these up, and they are the terminators of
the chunk as the plain scan finds them, in reverse order
(`terminatorsBack_cut_reverse`).

With this, looking through a window is one look-up in the reversed list of its
terminators (`scanWindow_split`).
-/

namespace RemoteTail

/-- The terminators of a chunk, at their positions in the file. -/
def Chunk.terminators (chunk : Chunk) : List Nat :=
  (Bytes.terminators chunk.data).map (chunk.offset + ·)

namespace TailSearch

/-- The position before each of the messages, the first of which ends at `stop`. -/
def terminatorsBack (stop : Nat) : List Bytes → List Nat
  | [] => []
  | message :: messages =>
      let terminator := stop - (message.length + 1)
      terminator :: terminatorsBack terminator messages

/-- Cutting the reversed octets meets the terminators from the end. -/
theorem terminatorsBack_cut_reverse (offset : Nat) (raw : Bytes) :
    terminatorsBack (offset + raw.length) (cut raw.reverse).1 =
      ((Bytes.terminators raw).map (offset + ·)).reverse := by
  induction raw using List.reverseRecOn with
  | nil => rfl
  | append_singleton raw octet ih =>
      rw [List.reverse_append, List.reverse_singleton, List.singleton_append,
        Bytes.terminators_append, List.map_append, List.reverse_append, ← ih, List.length_append,
        List.length_singleton]
      by_cases ends : octet = newline
      · simp [cut, ends, terminatorsBack, Bytes.terminators]
      · have none_found : Bytes.terminators [octet] = [] := by simp [Bytes.terminators, ends]
        rw [none_found]
        -- The octet lengthens the first message, which ends one position further on.
        cases messages : (cut raw.reverse).1 with
        | nil => simp [cut, messages, ends, terminatorsBack]
        | cons message messages =>
            have same : offset + (raw.length + 1) - (message.length + 1 + 1) =
                offset + raw.length - (message.length + 1) := by omega
            simp [cut, messages, ends, terminatorsBack, same]

theorem length_terminatorsBack (stop : Nat) (messages : List Bytes) :
    (terminatorsBack stop messages).length = messages.length := by
  induction messages generalizing stop with
  | nil => rfl
  | cons message messages ih => simp [terminatorsBack, ih]

/-- Looking through a window only depends on the terminators its lines show. -/
theorem scanWindow_layLines {wanted met : Nat} (pending : met ≤ wanted) (stop base : Nat)
    (messages : List Bytes) :
    scanWindow wanted stop met (layLines base messages) =
      match (terminatorsBack stop messages)[wanted - met]? with
      | some terminator => .inl (terminator + 1)
      | none => .inr (met + messages.length) := by
  induction messages generalizing stop base met with
  | nil => rfl
  | cons message messages ih =>
      have span_eq : Line.span ⟨message, base, true⟩ = message.length + 1 := rfl
      rw [layLines, scanWindow, span_eq, terminatorsBack]
      by_cases last : met = wanted
      · simp [last]
      · have index_eq : wanted - met = wanted - (met + 1) + 1 := by omega
        rw [if_neg last, ih (by omega), index_eq, List.getElem?_cons_succ, List.length_cons]
        have total : met + 1 + messages.length = met + (messages.length + 1) := by omega
        rw [total]

/-- Looking through the backward lines of a chunk finds the terminator that is wanted, if the chunk
has it, and counts the terminators of the chunk otherwise. -/
theorem scanWindow_split {wanted met : Nat} (pending : met ≤ wanted) (chunk : Chunk) :
    scanWindow wanted (chunk.offset + chunk.data.length) met
        (split chunk.data 0 .backward).lines =
      match chunk.terminators.reverse[wanted - met]? with
      | some terminator => .inl (terminator + 1)
      | none => .inr (met + chunk.terminators.length) := by
  have positions := terminatorsBack_cut_reverse chunk.offset chunk.data
  have lengths := congrArg List.length positions
  rw [length_terminatorsBack, List.length_reverse] at lengths
  rw [split, ScanOrder.arrange, scanWindow_layLines pending, positions, lengths]
  rfl

end TailSearch

end RemoteTail

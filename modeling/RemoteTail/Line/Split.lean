import RemoteTail.Line

/-!
# Splitting a chunk into lines

`cut` separates a string of octets at its terminators; `split` places the
pieces at their offsets and withholds what follows the last terminator.  A
chunk may be arranged backwards first, so that the line nearest its end comes
out first.

Cutting loses nothing (`join_cut`), and a cut never leaves a terminator inside
a piece (`newline_not_mem_of_mem_cut`, `newline_not_mem_cut_rest`).
-/

namespace RemoteTail

/-- The order in which a chunk is scanned for terminators. -/
inductive ScanOrder where
  /-- From the first octet to the last. -/
  | forward
  /-- From the last octet to the first. -/
  | backward
deriving DecidableEq, Repr

/-- The chunk in the order in which it is scanned. -/
def ScanOrder.arrange : ScanOrder → Bytes → Bytes
  | .forward, raw => raw
  | .backward, raw => raw.reverse

@[simp]
theorem ScanOrder.length_arrange (order : ScanOrder) (raw : Bytes) :
    (order.arrange raw).length = raw.length := by
  cases order <;> simp [arrange]

/-- The pieces of a string that a terminator ends, and the rest after the last one. -/
def cut : Bytes → List Bytes × Bytes
  | [] => ([], [])
  | octet :: raw =>
    match cut raw with
    | (messages, rest) =>
      if octet = newline then ([] :: messages, rest)
      else
        match messages with
        | [] => ([], octet :: rest)
        | message :: messages => ((octet :: message) :: messages, rest)

/-- Every message followed by its terminator. -/
def join (messages : List Bytes) : Bytes :=
  messages.flatMap (· ++ [newline])

/-- Cutting loses nothing. -/
theorem join_cut (raw : Bytes) : join (cut raw).1 ++ (cut raw).2 = raw := by
  induction raw with
  | nil => rfl
  | cons octet raw ih =>
    rcases hcut : cut raw with ⟨messages, rest⟩
    rw [hcut] at ih
    by_cases h : octet = newline
    · simpa [cut, hcut, h, join] using ih
    · cases messages with
      | nil => simpa [cut, hcut, h, join] using ih
      | cons message messages => simpa [cut, hcut, h, join] using ih

theorem newline_not_mem_of_mem_cut {raw message : Bytes} (hmem : message ∈ (cut raw).1) :
    newline ∉ message := by
  induction raw generalizing message with
  | nil => simp [cut] at hmem
  | cons octet raw ih =>
    rcases hcut : cut raw with ⟨messages, rest⟩
    rw [hcut] at ih
    by_cases h : octet = newline
    · simp only [cut, hcut, h, if_true, List.mem_cons] at hmem
      rcases hmem with rfl | hmem
      · simp
      · exact ih hmem
    · cases messages with
      | nil => simp [cut, hcut, h] at hmem
      | cons head messages =>
        simp only [cut, hcut, h, if_false, List.mem_cons] at hmem
        rcases hmem with rfl | hmem
        · have : newline ∉ head := ih (by simp)
          simp only [List.mem_cons, not_or]
          exact ⟨fun heq => h heq.symm, this⟩
        · exact ih (by simp [hmem])

theorem newline_not_mem_cut_rest (raw : Bytes) : newline ∉ (cut raw).2 := by
  induction raw with
  | nil => simp [cut]
  | cons octet raw ih =>
    rcases hcut : cut raw with ⟨messages, rest⟩
    rw [hcut] at ih
    by_cases h : octet = newline
    · simpa [cut, hcut, h] using ih
    · cases messages with
      | nil =>
        simp only [cut, hcut, h, if_false, List.mem_cons, not_or]
        exact ⟨fun heq => h heq.symm, ih⟩
      | cons head messages => simpa [cut, hcut, h] using ih

/-- Terminated lines laid one after another from `offset`. -/
def layLines (offset : Nat) : List Bytes → List Line
  | [] => []
  | message :: messages =>
    ⟨message, offset, true⟩ :: layLines (offset + message.length + 1) messages

/-- A chunk split into its lines. -/
structure Split where
  /-- The terminated lines, in scanning order. -/
  lines : List Line
  /-- How many octets after the last terminator are withheld. -/
  withheld : Nat
deriving DecidableEq, Repr

/-- Octets covered by the lines, terminators included. -/
def Split.consumed (s : Split) : Nat :=
  Line.spans s.lines

/-- Splits a chunk at its terminators.  Offsets count from `base` in scanning order. -/
def split (raw : Bytes) (base : Nat) (order : ScanOrder) : Split :=
  let pieces := cut (order.arrange raw)
  { lines := layLines base pieces.1, withheld := pieces.2.length }

end RemoteTail

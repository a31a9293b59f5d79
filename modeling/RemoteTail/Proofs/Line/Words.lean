import Mathlib.Algebra.Group.Nat.Defs
import RemoteTail.Proofs.Line.Terminators

/-!
# Lines in machine words

Positions and lengths are machine words.  The functions here split a chunk and
add up spans operation by operation, and give nothing as soon as a sum does not
fit into a word or a difference is negative.  For a chunk that ends within the
words they give what the plain functions give (`split?_eq`, `Line.spans?_eq`).
-/

namespace RemoteTail

/-! ## Words -/

/-- The sum of two words, if it is a word. -/
def Word.add? (first second : Nat) : Option Nat :=
  if first + second < 2 ^ 64 then some (first + second) else none

/-- The difference of two words, if it is not negative. -/
def Word.sub? (first second : Nat) : Option Nat :=
  if second ≤ first then some (first - second) else none

theorem Word.add?_eq {first second : Nat} (fits : first + second < 2 ^ 64) :
    Word.add? first second = some (first + second) :=
  if_pos fits

theorem Word.sub?_eq {first second : Nat} (reaches : second ≤ first) :
    Word.sub? first second = some (first - second) :=
  if_pos reaches

/-! ## Lines -/

/-- The span of a line, in words. -/
def Line.span? (line : Line) : Option Nat :=
  Word.add? line.size (if line.terminated then 1 else 0)

/-- Terminated lines laid one after another from `start` octets after `base`, and where the last of
them stops, in words. -/
def layLines? (base : Nat) : (start : Nat) → List Bytes → Option (List Line × Nat)
  | start, [] => some ([], start)
  | start, message :: messages => do
    let stop ← Word.add? start message.length
    let offset ← Word.add? base start
    let next ← Word.add? stop 1
    let (lines, last) ← layLines? base next messages
    some (⟨message, offset, true⟩ :: lines, last)

/-- A chunk split into its lines, in words. -/
def split? (raw : Bytes) (base : Nat) (order : ScanOrder) : Option Split := do
  let (lines, start) ← layLines? base 0 (cut (order.arrange raw)).1
  let withheld ← Word.sub? raw.length start
  some ⟨lines, withheld⟩

theorem length_join_cons (message : Bytes) (messages : List Bytes) :
    (join (message :: messages)).length = message.length + 1 + (join messages).length := by
  rw [join_cons, List.length_append, List.length_cons, Nat.add_right_comm, Nat.add_assoc]

theorem length_join_cut (order : ScanOrder) (raw : Bytes) :
    (join (cut (order.arrange raw)).1).length + (cut (order.arrange raw)).2.length =
      raw.length := by
  rw [← List.length_append, join_cut, ScanOrder.length_arrange]

theorem layLines?_eq {base start : Nat} {messages : List Bytes}
    (fits : base + start + (join messages).length < 2 ^ 64) :
    layLines? base start messages =
      some (layLines (base + start) messages, start + (join messages).length) := by
  induction messages generalizing start with
  | nil => rfl
  | cons message messages ih =>
      rw [length_join_cons] at fits ⊢
      have later := @ih (start + message.length + 1) (by omega)
      rw [layLines?, Word.add?_eq (by omega), Word.add?_eq (by omega)]
      simp only [Option.bind_eq_bind, Option.bind_some]
      rw [Word.add?_eq (by omega), Option.bind_some, later]
      simp only [Option.bind_some, layLines, ← Nat.add_assoc]

/-- A chunk within the words is split in words. -/
theorem split?_eq {raw : Bytes} {base : Nat} (fits : base + raw.length < 2 ^ 64)
    (order : ScanOrder) : split? raw base order = some (split raw base order) := by
  have whole := length_join_cut order raw
  rw [split?, layLines?_eq (by omega)]
  simp only [Option.bind_eq_bind, Option.bind_some]
  rw [Word.sub?_eq (by omega), Option.bind_some, split]
  simp only [Option.some.injEq, Split.mk.injEq, Nat.add_zero, true_and]
  omega

theorem spans_layLines (offset : Nat) (messages : List Bytes) :
    Line.spans (layLines offset messages) = (join messages).length := by
  induction messages generalizing offset with
  | nil => rfl
  | cons message messages ih =>
      rw [layLines, Line.spans_cons, ih, join_cons, List.length_append, List.length_cons,
        Nat.add_comm _ 1, ← Nat.add_assoc]
      rfl

/-- Octets that lines occupy together, in words. -/
def Line.spans? : List Line → Option Nat
  | [] => some 0
  | line :: lines => do
    let span ← line.span?
    let total ← spans? lines
    Word.add? span total

theorem Line.spans?_eq {lines : List Line} (fits : Line.spans lines < 2 ^ 64) :
    Line.spans? lines = some (Line.spans lines) := by
  induction lines with
  | nil => rfl
  | cons line lines ih =>
      rw [Line.spans_cons] at fits ⊢
      have first : line.span? = some line.span := by
        apply Word.add?_eq
        change line.span < 2 ^ 64
        omega
      rw [Line.spans?, first, ih (by omega)]
      exact Word.add?_eq fits

end RemoteTail

import RemoteTail.Proofs.Line.Division

/-!
# Splitting chunk after chunk

What a split withholds is all that later octets can still change.  So a string that
comes in two chunks is split by splitting the first, and then the second behind the
octets that were withheld (`split_forward_append`); and a string that comes in any
number of chunks is split chunk by chunk, however long a line is kept waiting
(`splitChunks_eq`, `split_forward_of_chunks`).
-/

namespace RemoteTail

/-- A split, carried on by that of what it withheld and what came after. -/
def Split.carriedOn (found later : Split) : Split :=
  ⟨found.lines ++ later.lines, later.withheld⟩

/-- Splits chunks one after another: each behind the octets that were withheld before it, the first
one behind `held`, and each where the lines before it ended, the first one at `base`. -/
def splitChunks (base : Nat) (held : Bytes) : List Bytes → Split
  | [] => ⟨[], held.length⟩
  | chunk :: chunks =>
    let found := split (held ++ chunk) base .forward
    found.carriedOn (splitChunks (base + found.consumed) (found.rest (held ++ chunk)) chunks)

/-- Splits chunks one after another, in words. -/
def splitChunks? (base : Nat) (held : Bytes) : List Bytes → Option Split
  | [] => some ⟨[], held.length⟩
  | chunk :: chunks => do
    let found ← split? (held ++ chunk) base .forward
    let consumed ← Line.spans? found.lines
    let next ← Word.add? base consumed
    let later ← splitChunks? next (found.rest (held ++ chunk)) chunks
    some (found.carriedOn later)

variable {base : Nat} {held : Bytes}

theorem newline_not_mem_rest_split (raw : Bytes) (base : Nat) :
    newline ∉ (split raw base .forward).rest raw := by
  rw [rest_split_forward]
  exact newline_not_mem_cut_rest raw

theorem length_rest_split (raw : Bytes) (base : Nat) :
    ((split raw base .forward).rest raw).length = (split raw base .forward).withheld :=
  congrArg List.length (rest_split_forward raw base)

/-- Octets without a terminator are withheld. -/
theorem split_of_newline_not_mem (base : Nat) (free : newline ∉ held) :
    split held base .forward = ⟨[], held.length⟩ := by
  rw [split, ScanOrder.arrange, cut_of_newline_not_mem free]
  rfl

/-- What the split of a first part withholds is split together with the second part. -/
theorem split_forward_append (first second : Bytes) (base : Nat) :
    split (first ++ second) base .forward =
      (split first base .forward).carriedOn
        (split ((split first base .forward).rest first ++ second)
          (base + (split first base .forward).consumed) .forward) := by
  have consumed_eq : (split first base .forward).consumed = (join (cut first).1).length :=
    spans_layLines base (cut first).1
  rw [rest_split_forward, consumed_eq]
  simp only [split, ScanOrder.arrange, Split.carriedOn]
  rw [cut_append, layLines_append]

/-- Splitting chunk after chunk comes to the split of all chunks at once. -/
theorem splitChunks_eq (chunks : List Bytes) (free : newline ∉ held) :
    splitChunks base held chunks = split (held ++ chunks.flatten) base .forward := by
  induction chunks generalizing base held with
  | nil =>
      rw [List.flatten_nil, List.append_nil, split_of_newline_not_mem base free]
      rfl
  | cons chunk chunks ih =>
      have carried := @ih (base + (split (held ++ chunk) base .forward).consumed) _
        (newline_not_mem_rest_split (held ++ chunk) base)
      rw [splitChunks, carried, ← split_forward_append, List.append_assoc, List.flatten_cons]

/-- Chunks that together end within the words are split in words. -/
theorem splitChunks?_eq (chunks : List Bytes)
    (fits : base + (held.length + chunks.flatten.length) < 2 ^ 64) :
    splitChunks? base held chunks = some (splitChunks base held chunks) := by
  induction chunks generalizing base held with
  | nil => rfl
  | cons chunk chunks ih =>
      have covered := consumed_add_withheld (held ++ chunk) base
      have rest_length := length_rest_split (held ++ chunk) base
      rw [List.flatten_cons, List.length_append] at fits
      rw [List.length_append] at covered
      have whole : base + (held ++ chunk).length < 2 ^ 64 := by
        rw [List.length_append]
        omega
      have spans : Line.spans? (split (held ++ chunk) base .forward).lines =
          some (split (held ++ chunk) base .forward).consumed := by
        apply Line.spans?_eq
        change (split (held ++ chunk) base .forward).consumed < 2 ^ 64
        omega
      rw [splitChunks?, split?_eq whole]
      simp only [Option.bind_eq_bind, Option.bind_some]
      rw [spans, Option.bind_some, Word.add?_eq (by omega), Option.bind_some, ih (by omega),
        Option.bind_some, splitChunks]

/-- A string is split in two steps, or chunk after chunk, as it is split at once: the octets that
one step withholds go in front of those of the next. -/
theorem split_forward_of_chunks (base : Nat) :
    (∀ first second, ∃ found held, split first base .forward = found ∧
      found.rest first = held ∧
      split (first ++ second) base .forward =
        found.carriedOn (split (held ++ second) (base + found.consumed) .forward)) ∧
    ∀ chunks : List Bytes,
      splitChunks base [] chunks = split chunks.flatten base .forward ∧
        (base + chunks.flatten.length < 2 ^ 64 →
          splitChunks? base [] chunks = some (split chunks.flatten base .forward)) := by
  constructor
  · intro first second
    exact ⟨_, _, rfl, rfl, split_forward_append first second base⟩
  · intro chunks
    have at_once : splitChunks base [] chunks = split chunks.flatten base .forward :=
      splitChunks_eq chunks List.not_mem_nil
    refine ⟨at_once, fun fits => ?_⟩
    rw [splitChunks?_eq chunks (by rwa [List.length_nil, Nat.zero_add]), at_once]

/-- A line that begins in one chunk and ends in the next, then an empty chunk and one that begins with
a terminator, at the last position at which they are within the words. -/
theorem split_forward_of_chunks_of_waiting_line :
    2 ^ 64 - 6 + ([[0x61], [0x62, 0x0A], [], [0x0A, 0x63]] : List Bytes).flatten.length < 2 ^ 64 ∧
      splitChunks? (2 ^ 64 - 6) [] [[0x61], [0x62, 0x0A], [], [0x0A, 0x63]] =
        some ⟨[⟨[0x61, 0x62], 2 ^ 64 - 6, true⟩, ⟨[], 2 ^ 64 - 3, true⟩], 1⟩ := by
  have fits : 2 ^ 64 - 6 + ([[0x61], [0x62, 0x0A], [], [0x0A, 0x63]] : List Bytes).flatten.length <
      2 ^ 64 := by
    decide
  have in_words :=
    ((split_forward_of_chunks (2 ^ 64 - 6)).2 [[0x61], [0x62, 0x0A], [], [0x0A, 0x63]]).2 fits
  exact ⟨fits, in_words.trans (by decide)⟩

end RemoteTail

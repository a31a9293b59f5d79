import RemoteTail.Proofs.Cursor.Pull

/-!
# Pulling to the end of the data

A sequence of pulls ends if some invariant of the pulls bounds the number of
lines that can be handed out (`blocks_run`).  The blocks are then those lines,
written out, and the last pull says why there are no more.

Outside stream mode the line limit is kept on the way: as many terminated lines
as it says are handed out at most, and a terminated one reaches it
(`WithinLimit.takeLine`).
-/

namespace RemoteTail

namespace Cursor

variable {σ : Type} {endpoint : Endpoint (StateM σ)}

theorem blocks_run_ended {c next : Cursor} {world world' : σ}
    (pulls : (c.pull endpoint).run world = (some (.ok none, next), world')) (limit : Nat) :
    (c.blocks endpoint (limit + 1)).run world = (some ([], .ended, next), world') := by
  rw [blocks, collect, StateT.run_bind, pulls]
  rfl

theorem blocks_run_block {c next last : Cursor} {world world' world'' : σ} {block : Bytes}
    {blocks : List Bytes} {stop : Stop} {limit : Nat}
    (pulls : (c.pull endpoint).run world = (some (.ok (some block), next), world'))
    (rest : (next.blocks endpoint limit).run world' = (some (blocks, stop, last), world'')) :
    (c.blocks endpoint (limit + 1)).run world =
      (some (block :: blocks, stop, last), world'') := by
  rw [Cursor.blocks] at rest
  rw [Cursor.blocks, collect, StateT.run_bind, pulls]
  change ((collect (·.pull endpoint) limit next >>= fun more =>
    pure (more.map fun rest => (block :: rest.1, rest.2.1, rest.2.2))) : StateM σ _).run
      world' = _
  rw [StateT.run_bind, rest]
  rfl

/-- The blocks of a cursor whose pulls succeed.  `Inv` holds of the cursor, its world and the lines
handed out so far, every pull keeps it, and it bounds the number of lines; `Final` is what the pull
that finds nothing establishes. -/
theorem blocks_run {Inv : Cursor → σ → List Line → Prop} {Final : Cursor → σ → Prop}
    {write : Line → Bytes} {bound limit : Nat}
    (writes : ∀ {c world lines}, Inv c world lines →
      ∀ line, c.formatter.line line = .ok (write line))
    (step : ∀ {c world lines}, Inv c world lines → ∃ found next world',
      (c.takeLine endpoint).run world = (some (.ok found, next), world') ∧
        Inv next world' (lines ++ Taking.lines (.ok found)) ∧ (found = none → Final next world'))
    (bounded : ∀ {c world lines}, Inv c world lines → lines.length ≤ bound)
    {c : Cursor} {world : σ} {lines : List Line} (inv : Inv c world lines)
    (enough : bound < lines.length + limit) :
    ∃ more last world',
      (c.blocks endpoint limit).run world = (some (more.map write, .ended, last), world') ∧
        Inv last world' (lines ++ more) ∧ Final last world' := by
  induction limit generalizing c world lines with
  | zero =>
      have few := bounded inv
      omega
  | succ limit ih =>
      obtain ⟨found, next, world', taken, kept, final⟩ := step inv
      have pulls := pull_run_of_takeLine taken
      cases found with
      | none =>
          refine ⟨[], next, world', ?_, kept, final rfl⟩
          exact blocks_run_ended pulls limit
      | some line =>
          have pulled : c.written (.ok (some line)) = .ok (some (write line)) := by
            simp only [written, writes inv line]
          obtain ⟨more, last, world'', rest, ended, done⟩ := ih kept (by
            rw [List.length_append, Taking.lines, List.length_singleton]
            omega)
          rw [pulled] at pulls
          refine ⟨line :: more, last, world'', ?_, ?_, done⟩
          · exact blocks_run_block pulls rest
          · rw [List.append_cons]
            exact ended

/-! ## The line limit -/

/-- More lines may be handed out, or a terminated line was the last one. -/
structure WithinLimit (c : Cursor) (lines : List Line) : Prop where
  emitted_le : c.emitted ≤ c.config.maxLines
  ends : c.emitted = c.config.maxLines → ∃ line, lines.getLast? = some line ∧ line.terminated = true

namespace WithinLimit

variable {c next : Cursor} {lines : List Line} {world world' : σ} {taking : Taking}

theorem of_lt (free : c.emitted < c.config.maxLines) : c.WithinLimit lines where
  emitted_le := Nat.le_of_lt free
  ends := fun reached => absurd reached (Nat.ne_of_lt free)

theorem limitReached_iff (within : c.WithinLimit lines) (finite : c.config.stream = false) :
    c.limitReached = true ↔ c.emitted = c.config.maxLines := by
  have emitted_le := within.emitted_le
  simp only [limitReached, finite, Bool.not_false, Bool.true_and, decide_eq_true_eq]
  omega

theorem dequeue (free : c.emitted < c.config.maxLines) :
    c.dequeue.2.WithinLimit (lines ++ Taking.lines (.ok c.dequeue.1)) := by
  unfold Cursor.dequeue
  cases c.buffer with
  | nil => exact of_lt free
  | cons line buffer =>
      cases ends : line.terminated with
      | false => exact of_lt (by simpa [ends] using free)
      | true =>
          constructor
          · simpa [ends] using Nat.succ_le_of_lt free
          · intro _
            exact ⟨line, by simp [Taking.lines], ends⟩

theorem takeLine (finite : c.config.stream = false) (within : c.WithinLimit lines)
    (taken : (c.takeLine endpoint).run world = (some (taking, next), world')) :
    next.WithinLimit (lines ++ taking.lines) := by
  have free : c.limitReached = false → c.emitted < c.config.maxLines := by
    intro unlimited
    simpa [limitReached, finite] using unlimited
  rcases takeLine_cases taken with
    ⟨_, rfl, rfl, _⟩ | ⟨unlimited, _, reply, _, rfl, rfl⟩ | ⟨unlimited, _, rfl, rfl, _⟩
  · rw [show Taking.lines (.ok none) = [] from rfl, List.append_nil]
    exact within
  · cases reply with
    | error error => exact of_lt (free unlimited)
    | ok chunk => exact dequeue (free unlimited)
  · exact dequeue (free unlimited)

/-- When the limit is reached, the lines written out end with a terminator. -/
theorem getLast?_written (within : c.WithinLimit lines) (reached : c.emitted = c.config.maxLines) :
    (lines.flatMap Line.bytes).getLast? = some newline := by
  obtain ⟨line, last, ends⟩ := within.ends reached
  obtain ⟨earlier, rfl⟩ := List.getLast?_eq_some_iff.mp last
  simp [Line.bytes, ends]

end WithinLimit

end Cursor

end RemoteTail

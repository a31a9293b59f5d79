import Mathlib.Control.Lawful
import RemoteTail.Cursor.Blocks

/-!
# Pulls without their formatter

A pull takes at most one line out of the buffer and shows it to the formatter.
`takeLine` is the part of the pull that the formatter has no influence on: it
says which line is taken, or why none is, and how the cursor changes.  A pull is
`takeLine` with the line written out (`pull_eq_map_takeLine`), so what holds of
every `takeLine` holds of the pulls of every cursor.
-/

namespace RemoteTail

/-- What a pull finds before it writes anything: a line, the end of the data, or a fetch error. -/
abbrev Taking := Except FetchError (Option Line)

/-- The line that has been taken, if there is one. -/
def Taking.lines : Taking → List Line
  | .ok (some line) => [line]
  | _ => []

namespace Cursor

/-- Takes the first line out of the buffer.  Fragments count with the piece that ends their
line. -/
def dequeue (c : Cursor) : Option Line × Cursor :=
  match c.buffer with
  | [] => (none, c)
  | line :: buffer =>
      (some line,
        { c with
          buffer := buffer
          emitted := if line.terminated then c.emitted + 1 else c.emitted })

/-- What a pull gives for what it has found. -/
def written (c : Cursor) : Taking → Pulled
  | .error error => .error (.fetch error)
  | .ok none => .ok none
  | .ok (some line) =>
      match c.formatter.line line with
      | .error error => .error (.format error)
      | .ok block => .ok (some block)

/-- What a pull finds once its read has been answered. -/
def settle (c : Cursor) : Reply → Taking × Cursor
  | .error error => (.error error, c)
  | .ok chunk => ((.ok (c.absorb chunk).dequeue.1), (c.absorb chunk).dequeue.2)

/-- A pull up to the point where its line is written. -/
def takeLine {m : Type → Type} [Monad m] (c : Cursor) (endpoint : Endpoint m) :
    m (Option (Taking × Cursor)) := do
  if c.limitReached then return some (.ok none, c)
  else if c.buffer.isEmpty then
    let reply ← c.file.fetch endpoint c.offset c.config.chunkSize
    return reply.map c.settle
  else return some (.ok c.dequeue.1, c.dequeue.2)

/-! ## What stays as it is -/

@[simp]
theorem dequeue_config (c : Cursor) : c.dequeue.2.config = c.config := by
  unfold dequeue
  split <;> rfl

@[simp]
theorem dequeue_formatter (c : Cursor) : c.dequeue.2.formatter = c.formatter := by
  unfold dequeue
  split <;> rfl

@[simp]
theorem dequeue_file (c : Cursor) : c.dequeue.2.file = c.file := by
  unfold dequeue
  split <;> rfl

@[simp]
theorem dequeue_offset (c : Cursor) : c.dequeue.2.offset = c.offset := by
  unfold dequeue
  split <;> rfl

/-- The taken line stood before the lines that are left. -/
theorem lines_dequeue_append (c : Cursor) :
    Taking.lines (.ok c.dequeue.1) ++ c.dequeue.2.buffer = c.buffer := by
  unfold dequeue
  split <;> rename_i stored <;> simp [Taking.lines, stored]

theorem dequeue_emitted (c : Cursor) :
    c.dequeue.2.emitted =
      c.emitted + (Taking.lines (.ok c.dequeue.1)).countP (·.terminated) := by
  unfold dequeue
  split
  · simp [Taking.lines]
  · rename_i line _ _
    cases ends : line.terminated <;> simp [Taking.lines, ends]

theorem dequeue_eq_none_iff (c : Cursor) : c.dequeue.1 = none ↔ c.buffer = [] := by
  unfold dequeue
  split <;> rename_i stored <;> simp [stored]

theorem dequeue_of_buffer_nil {c : Cursor} (empty : c.buffer = []) : c.dequeue = (none, c) := by
  simp [dequeue, empty]

/-! ## Pulls written out -/

/-- A line is refused by the formatter or makes a block. -/
theorem written_line_cases (c : Cursor) (line : Line) :
    (∃ error, c.written (.ok (some line)) = .error (.format error)) ∨
      ∃ block, c.written (.ok (some line)) = .ok (some block) := by
  cases blocks : c.formatter.line line with
  | error error => exact .inl ⟨error, by simp [written, blocks]⟩
  | ok block => exact .inr ⟨block, by simp [written, blocks]⟩

/-- Only an end of the data is written as one. -/
theorem written_eq_ok_none_iff {c : Cursor} {taking : Taking} :
    c.written taking = .ok none ↔ taking = .ok none := by
  match taking with
  | .error met => simp [written]
  | .ok none => simp [written]
  | .ok (some line) =>
      rcases c.written_line_cases line with ⟨_, refused⟩ | ⟨_, made⟩
      · simp [refused]
      · simp [made]

theorem pop_eq (c : Cursor) : c.pop = (c.written (.ok c.dequeue.1), c.dequeue.2) := by
  unfold pop dequeue
  cases c.buffer with
  | nil => rfl
  | cons line buffer =>
      simp only [written]
      cases c.formatter.line line <;> rfl

theorem resume_eq (c : Cursor) (reply : Reply) :
    c.resume reply = (c.written (c.settle reply).1, (c.settle reply).2) := by
  cases reply with
  | error error => rfl
  | ok chunk =>
      rw [resume, pop_eq, settle]
      rfl

/-- A pull is a taking with its line written out. -/
theorem pull_eq_map_takeLine {m : Type → Type} [Monad m] [LawfulMonad m] (c : Cursor)
    (endpoint : Endpoint m) :
    c.pull endpoint =
      (fun result => result.map fun (taking, next) => (c.written taking, next)) <$>
        c.takeLine endpoint := by
  unfold pull takeLine
  by_cases limited : c.limitReached = true
  · simp [limited, written]
  · by_cases empty : c.buffer.isEmpty = true
    · simp only [limited, empty, if_true, Bool.false_eq_true, if_false, map_bind, map_pure,
        Option.map_map]
      congr 1
      funext reply
      congr 2
      funext answered
      exact c.resume_eq answered
    · simp [limited, empty, pop_eq]

variable {σ : Type}

variable {c next : Cursor} {endpoint : Endpoint (StateM σ)} {world world' : σ} {taking : Taking}

/-! ### In a world

A pull finds nothing if the limit is reached, and otherwise the first line of the buffer or what
comes of the reply to a read.
-/

theorem takeLine_run_of_limitReached (limited : c.limitReached = true) (world : σ) :
    (c.takeLine endpoint).run world = (some (.ok none, c), world) := by
  unfold takeLine
  rw [if_pos limited]
  rfl

theorem takeLine_run_of_buffer_nil (unlimited : c.limitReached = false) (unread : c.buffer = [])
    (world : σ) :
    (c.takeLine endpoint).run world =
      (((c.file.fetch endpoint c.offset c.config.chunkSize).run world).1.map c.settle,
        ((c.file.fetch endpoint c.offset c.config.chunkSize).run world).2) := by
  unfold takeLine
  rw [unlimited, unread]
  rfl

theorem takeLine_run_of_buffer_ne_nil (unlimited : c.limitReached = false)
    (stored : c.buffer ≠ []) (world : σ) :
    (c.takeLine endpoint).run world = (some (.ok c.dequeue.1, c.dequeue.2), world) := by
  unfold takeLine
  rw [unlimited, if_neg Bool.false_ne_true, if_neg (by simpa using stored)]
  rfl

/-- All that a completed taking can have done. -/
theorem takeLine_cases
    (taken : (c.takeLine endpoint).run world = (some (taking, next), world')) :
    (c.limitReached = true ∧ taking = .ok none ∧ next = c ∧ world' = world) ∨
      (c.limitReached = false ∧ c.buffer = [] ∧
        ∃ reply, (c.file.fetch endpoint c.offset c.config.chunkSize).run world =
            (some reply, world') ∧
          taking = (c.settle reply).1 ∧ next = (c.settle reply).2) ∨
      (c.limitReached = false ∧ c.buffer ≠ [] ∧
        taking = .ok c.dequeue.1 ∧ next = c.dequeue.2 ∧ world' = world) := by
  cases limited : c.limitReached with
  | true =>
      rw [takeLine_run_of_limitReached limited] at taken
      cases taken
      exact .inl ⟨rfl, rfl, rfl, rfl⟩
  | false =>
      by_cases unread : c.buffer = []
      · rw [takeLine_run_of_buffer_nil limited unread] at taken
        obtain ⟨settled, rfl⟩ := Prod.mk.inj taken
        obtain ⟨reply, answered, settled⟩ := Option.map_eq_some_iff.mp settled
        obtain ⟨rfl, rfl⟩ := Prod.mk.inj settled
        exact .inr (.inl ⟨rfl, unread, reply, Prod.ext answered rfl, rfl, rfl⟩)
      · rw [takeLine_run_of_buffer_ne_nil limited unread] at taken
        cases taken
        exact .inr (.inr ⟨rfl, unread, rfl, rfl, rfl⟩)

/-- A taking changes the position, the buffer and the count, and nothing else of the cursor. -/
theorem takeLine_setup
    (taken : (c.takeLine endpoint).run world = (some (taking, next), world')) :
    next.file = c.file ∧ next.formatter = c.formatter ∧ next.config = c.config := by
  rcases takeLine_cases taken with
    ⟨_, _, rfl, _⟩ | ⟨_, _, reply, _, _, rfl⟩ | ⟨_, _, _, rfl, _⟩
  · exact ⟨rfl, rfl, rfl⟩
  · cases reply with
    | error error => exact ⟨rfl, rfl, rfl⟩
    | ok chunk =>
        exact ⟨dequeue_file _, dequeue_formatter _, dequeue_config _⟩
  · exact ⟨dequeue_file c, dequeue_formatter c, dequeue_config c⟩

/-- A taking counts the line that it takes, if that line is terminated. -/
theorem takeLine_emitted
    (taken : (c.takeLine endpoint).run world = (some (taking, next), world')) :
    next.emitted = c.emitted + taking.lines.countP (·.terminated) := by
  rcases takeLine_cases taken with
    ⟨_, rfl, rfl, _⟩ | ⟨_, _, reply, _, rfl, rfl⟩ | ⟨_, _, rfl, rfl, _⟩
  · rfl
  · cases reply with
    | error error => rfl
    | ok chunk => exact dequeue_emitted (c.absorb chunk)
  · exact dequeue_emitted c

theorem pull_run (c : Cursor) (endpoint : Endpoint (StateM σ)) (world : σ) :
    (c.pull endpoint).run world =
      (((c.takeLine endpoint).run world).1.map fun (taking, next) => (c.written taking, next),
        ((c.takeLine endpoint).run world).2) := by
  rw [pull_eq_map_takeLine]
  rfl

theorem pull_run_of_takeLine
    (taken : (c.takeLine endpoint).run world = (some (taking, next), world')) :
    (c.pull endpoint).run world = (some (c.written taking, next), world') := by
  rw [pull_run, taken]
  rfl

/-- The line that a pull takes in a world, if it takes one. -/
def linesTaken (c : Cursor) (endpoint : Endpoint (StateM σ)) (world : σ) : List Line :=
  match ((c.takeLine endpoint).run world).1 with
  | some (taking, _) => taking.lines
  | none => []

/-- A completed pull is a completed taking. -/
theorem pull_cases {pulled : Pulled}
    (pulls : (c.pull endpoint).run world = (some (pulled, next), world')) :
    ∃ taking, (c.takeLine endpoint).run world = (some (taking, next), world') ∧
      pulled = c.written taking ∧ c.linesTaken endpoint world = taking.lines := by
  rw [pull_run] at pulls
  obtain ⟨completed, rfl⟩ := Prod.mk.inj pulls
  obtain ⟨⟨taking, after⟩, taken, rest⟩ := Option.map_eq_some_iff.mp completed
  obtain ⟨rfl, rfl⟩ := Prod.mk.inj rest
  refine ⟨taking, Prod.ext taken rfl, rfl, ?_⟩
  rw [linesTaken, taken]

/-- A pull that is not complete takes no line. -/
theorem linesTaken_of_pull_none
    (outstanding : ((c.pull endpoint).run world).1 = none) : c.linesTaken endpoint world = [] := by
  rw [pull_run] at outstanding
  rw [linesTaken, Option.map_eq_none_iff.mp outstanding]

end Cursor

end RemoteTail

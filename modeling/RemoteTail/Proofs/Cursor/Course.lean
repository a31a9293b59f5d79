import RemoteTail.Proofs.Cursor.Continuity

/-!
# Courses of events

A reading goes through a course of events: its world changes, or a pull is made
that may be told to give up.  `Reading.after` is the reading that the course
leaves, and `Reading.results` are what its pulls have given.  Nothing is assumed
of the endpoint, and a change may do anything to the world.

`Reading.pull_cases` says all that a pull can do: it is complete and has taken
what there was to take, or it does not come to its end and has taken nothing.
-/

namespace RemoteTail

/-- What a reading goes through. -/
inductive Event (σ : Type) where
  /-- The world changes. -/
  | change (become : σ → σ)
  /-- A pull, which may be told to give up. -/
  | pull (cancellation : Cursor.Cancellation)

namespace Cursor

variable {σ : Type}

/-- What a pull gives that does not come to its end: nothing yet, unless it has been told to give
up. -/
def Cancellation.unfinished : Cancellation → Option Pulled
  | .before => some (.error .cancelled)
  | .waiting => some (.error .cancelled)
  | .never => none

theorem pullUntil_never (c : Cursor) (endpoint : Endpoint (StateM σ)) :
    c.pullUntil endpoint .never = c.pull endpoint :=
  rfl

theorem pullUntil_run_before (c : Cursor) (endpoint : Endpoint (StateM σ)) (world : σ) :
    (c.pullUntil endpoint .before).run world = (some (.error .cancelled, c), world) :=
  rfl

/-- A pull that gives up as soon as it has to wait is given up if it is not complete. -/
theorem pullUntil_run_waiting (c : Cursor) (endpoint : Endpoint (StateM σ)) (world : σ) :
    (c.pullUntil endpoint .waiting).run world =
      (some (((c.pull endpoint).run world).1.getD (.error .cancelled, c)),
        ((c.pull endpoint).run world).2) :=
  rfl

end Cursor

namespace Reading

variable {σ : Type} (endpoint : Endpoint (StateM σ))

/-- The reading after an event.  A pull that is not complete leaves the cursor as it was. -/
def next (reading : Reading σ) : Event σ → Reading σ
  | .change become => { reading with world := become reading.world }
  | .pull cancellation =>
      let pulled := (reading.cursor.pullUntil endpoint cancellation).run reading.world
      { cursor := (pulled.1.map Prod.snd).getD reading.cursor
        world := pulled.2
        lines := reading.lines ++
          reading.cursor.linesTakenUntil endpoint reading.world cancellation }

/-- What the pull of an event gives, if the event is a pull; `none` stands for a pull that is not
complete. -/
def given (reading : Reading σ) : Event σ → List (Option Pulled)
  | .change _ => []
  | .pull cancellation =>
      [((reading.cursor.pullUntil endpoint cancellation).run reading.world).1.map Prod.fst]

/-- The reading after a course of events. -/
def after : List (Event σ) → Reading σ → Reading σ
  | [], reading => reading
  | event :: events, reading => after events (reading.next endpoint event)

/-- What the pulls of a course give, the first one first. -/
def results : List (Event σ) → Reading σ → List (Option Pulled)
  | [], _ => []
  | event :: events, reading =>
      reading.given endpoint event ++ results events (reading.next endpoint event)

variable {endpoint}

@[simp]
theorem after_nil (reading : Reading σ) : after endpoint [] reading = reading :=
  rfl

@[simp]
theorem after_cons (event : Event σ) (events : List (Event σ)) (reading : Reading σ) :
    after endpoint (event :: events) reading =
      after endpoint events (reading.next endpoint event) :=
  rfl

@[simp]
theorem results_nil (reading : Reading σ) : results endpoint [] reading = [] :=
  rfl

@[simp]
theorem results_cons (event : Event σ) (events : List (Event σ)) (reading : Reading σ) :
    results endpoint (event :: events) reading =
      reading.given endpoint event ++ results endpoint events (reading.next endpoint event) :=
  rfl

@[simp]
theorem after_append (first second : List (Event σ)) (reading : Reading σ) :
    after endpoint (first ++ second) reading =
      after endpoint second (after endpoint first reading) := by
  induction first generalizing reading with
  | nil => rfl
  | cons event events ih => exact ih (reading.next endpoint event)

@[simp]
theorem results_append (first second : List (Event σ)) (reading : Reading σ) :
    results endpoint (first ++ second) reading =
      results endpoint first reading ++
        results endpoint second (after endpoint first reading) := by
  induction first generalizing reading with
  | nil => rfl
  | cons event events ih => simp [ih]

/-- What a course keeps if each of its events does. -/
theorem after_induction {motive : Reading σ → Prop} {events : List (Event σ)}
    {reading : Reading σ} (kept : motive reading)
    (keeps : ∀ event ∈ events, ∀ {reading}, motive reading →
      motive (reading.next endpoint event)) : motive (after endpoint events reading) := by
  induction events generalizing reading with
  | nil => exact kept
  | cons event events ih =>
      apply ih
      · exact keeps event List.mem_cons_self kept
      · intro later member
        exact keeps later (List.mem_cons_of_mem event member)

variable {c cursor : Cursor} {world world' : σ} {lines : List Line} {taking : Taking}
  {cancellation : Cursor.Cancellation}

/-- A pull that is given up at once does nothing. -/
theorem pull_before (reading : Reading σ) :
    reading.given endpoint (.pull .before) = [Cursor.Cancellation.before.unfinished] ∧
      reading.next endpoint (.pull .before) = reading := by
  constructor
  · rfl
  · simp only [next, Cursor.pullUntil_run_before, Cursor.linesTakenUntil, List.append_nil]
    rfl

/-- Unless it is given up at once, a pull is complete if its taking is. -/
theorem pull_of_taken (willing : cancellation ≠ .before)
    (taken : (c.takeLine endpoint).run world = (some (taking, cursor), world')) :
    given endpoint ⟨c, world, lines⟩ (.pull cancellation) = [some (c.written taking)] ∧
      next endpoint ⟨c, world, lines⟩ (.pull cancellation) =
        ⟨cursor, world', lines ++ taking.lines⟩ := by
  have pulls := Cursor.pull_run_of_takeLine taken
  have lines_eq : c.linesTaken endpoint world = taking.lines := by
    rw [Cursor.linesTaken, taken]
  cases cancellation with
  | before => exact absurd rfl willing
  | waiting =>
      simp only [given, next, Cursor.pullUntil_run_waiting, pulls, Cursor.linesTakenUntil, lines_eq]
      exact ⟨rfl, rfl⟩
  | never =>
      simp only [given, next, Cursor.pullUntil_never, pulls, Cursor.linesTakenUntil, lines_eq]
      exact ⟨rfl, rfl⟩

/-- A pull does not come to its end if its taking does not. -/
theorem pull_of_outstanding (willing : cancellation ≠ .before)
    (outstanding : (c.takeLine endpoint).run world = (none, world')) :
    given endpoint ⟨c, world, lines⟩ (.pull cancellation) = [cancellation.unfinished] ∧
      next endpoint ⟨c, world, lines⟩ (.pull cancellation) = ⟨c, world', lines⟩ := by
  have pulls : (c.pull endpoint).run world = (none, world') := by
    rw [Cursor.pull_run, outstanding]
    rfl
  have lines_eq : c.linesTaken endpoint world = [] := by
    rw [Cursor.linesTaken, outstanding]
  cases cancellation with
  | before => exact absurd rfl willing
  | waiting =>
      simp only [given, next, Cursor.pullUntil_run_waiting, pulls, Cursor.linesTakenUntil, lines_eq,
        List.append_nil]
      exact ⟨rfl, rfl⟩
  | never =>
      simp only [given, next, Cursor.pullUntil_never, pulls, Cursor.linesTakenUntil, lines_eq,
        List.append_nil]
      exact ⟨rfl, rfl⟩

/-- All that a pull can do.  Either it is complete and gives what has been taken, written out, or it
does not come to its end, and then at most its read has been asked for. -/
theorem pull_cases (endpoint : Endpoint (StateM σ)) (reading : Reading σ)
    (cancellation : Cursor.Cancellation) :
    (∃ taking cursor world,
        (reading.cursor.takeLine endpoint).run reading.world = (some (taking, cursor), world) ∧
        reading.given endpoint (.pull cancellation) = [some (reading.cursor.written taking)] ∧
        reading.next endpoint (.pull cancellation) =
          ⟨cursor, world, reading.lines ++ taking.lines⟩) ∨
      ∃ world,
        (world = reading.world ∨
          (reading.cursor.takeLine endpoint).run reading.world = (none, world)) ∧
        reading.given endpoint (.pull cancellation) = [cancellation.unfinished] ∧
        reading.next endpoint (.pull cancellation) = ⟨reading.cursor, world, reading.lines⟩ := by
  rcases reading with ⟨c, world, lines⟩
  by_cases willing : cancellation = .before
  · subst willing
    obtain ⟨given_eq, next_eq⟩ := @pull_before _ endpoint ⟨c, world, lines⟩
    exact .inr ⟨world, .inl rfl, given_eq, next_eq⟩
  · obtain ⟨outcome, world', taken⟩ :
        ∃ outcome world', (c.takeLine endpoint).run world = (outcome, world') := ⟨_, _, rfl⟩
    cases outcome with
    | none =>
        obtain ⟨given_eq, next_eq⟩ := pull_of_outstanding willing taken
        exact .inr ⟨world', .inr taken, given_eq, next_eq⟩
    | some found =>
        obtain ⟨given_eq, next_eq⟩ := pull_of_taken willing taken
        exact .inl ⟨found.1, found.2, world', taken, given_eq, next_eq⟩

/-- No event changes what the cursor has been set up with. -/
theorem next_setup (endpoint : Endpoint (StateM σ)) (reading : Reading σ) (event : Event σ) :
    (reading.next endpoint event).cursor.file = reading.cursor.file ∧
      (reading.next endpoint event).cursor.formatter = reading.cursor.formatter ∧
      (reading.next endpoint event).cursor.config = reading.cursor.config := by
  cases event with
  | change become => exact ⟨rfl, rfl, rfl⟩
  | pull cancellation =>
      rcases pull_cases endpoint reading cancellation with
        ⟨taking, cursor, world, taken, _, next_eq⟩ | ⟨world, _, _, next_eq⟩
      · rw [next_eq]
        exact Cursor.takeLine_setup taken
      · rw [next_eq]
        exact ⟨rfl, rfl, rfl⟩

theorem after_setup (endpoint : Endpoint (StateM σ)) (events : List (Event σ))
    (reading : Reading σ) :
    (after endpoint events reading).cursor.file = reading.cursor.file ∧
      (after endpoint events reading).cursor.formatter = reading.cursor.formatter ∧
      (after endpoint events reading).cursor.config = reading.cursor.config := by
  induction events generalizing reading with
  | nil => exact ⟨rfl, rfl, rfl⟩
  | cons event events ih =>
      obtain ⟨file_eq, formatter_eq, config_eq⟩ := next_setup endpoint reading event
      rw [after_cons, ← file_eq, ← formatter_eq, ← config_eq]
      exact ih (reading.next endpoint event)

/-! ## Blocks -/

/-- The block that the result of a pull holds, if it holds one. -/
def block? : Option Pulled → Option Bytes
  | some (.ok (some block)) => some block
  | _ => none

/-- The blocks among the results of pulls. -/
def blocks (results : List (Option Pulled)) : List Bytes :=
  results.filterMap block?

@[simp]
theorem blocks_nil : blocks [] = [] :=
  rfl

@[simp]
theorem blocks_append (first second : List (Option Pulled)) :
    blocks (first ++ second) = blocks first ++ blocks second :=
  List.filterMap_append ..

theorem blocks_unfinished (cancellation : Cursor.Cancellation) :
    blocks [cancellation.unfinished] = [] := by
  cases cancellation <;> rfl

section

variable {write : Line → Bytes}

/-- A formatter that never refuses a line makes one block of each line that is taken. -/
theorem blocks_written (writes : ∀ line, c.formatter.line line = .ok (write line))
    (taking : Taking) : blocks [some (c.written taking)] = taking.lines.map write := by
  match taking with
  | .error error => rfl
  | .ok none => rfl
  | .ok (some line) => simp [blocks, block?, Cursor.written, writes, Taking.lines]

theorem map_lines_next {reading : Reading σ}
    (writes : ∀ line, reading.cursor.formatter.line line = .ok (write line)) (event : Event σ) :
    (reading.next endpoint event).lines.map write =
      reading.lines.map write ++ blocks (reading.given endpoint event) := by
  cases event with
  | change become => exact (List.append_nil _).symm
  | pull cancellation =>
      rcases pull_cases endpoint reading cancellation with
        ⟨taking, cursor, world, _, given_eq, next_eq⟩ | ⟨world, _, given_eq, next_eq⟩
      · rw [next_eq, given_eq, blocks_written writes, List.map_append]
      · rw [next_eq, given_eq, blocks_unfinished, List.append_nil]

/-- The blocks of a course are the lines that it has handed out, written out. -/
theorem map_lines_after {reading : Reading σ}
    (writes : ∀ line, reading.cursor.formatter.line line = .ok (write line))
    (events : List (Event σ)) :
    (after endpoint events reading).lines.map write =
      reading.lines.map write ++ blocks (results endpoint events reading) := by
  induction events generalizing reading with
  | nil => exact (List.append_nil _).symm
  | cons event events ih =>
      have formatter_eq := (next_setup endpoint reading event).2.1
      rw [after_cons, ih, map_lines_next writes, results_cons, blocks_append, List.append_assoc]
      rw [formatter_eq]
      exact writes

end

end Reading

end RemoteTail

import RemoteTail.Proofs.Cursor.Course
import RemoteTail.Proofs.Cursor.Drain

/-!
# The line limit

The limit is looked at in one place only, before a pull does anything else.  So
a reading goes the same way whatever its limit is, as long as the limit is not
reached (`Reading.results_withLimit`), and a reading whose limit is reached goes
nowhere (`Reading.after_of_limitReached`).  Fragments are not counted, and so it
is a terminated line that reaches the limit.

Nothing here looks at what an endpoint answers.
-/

namespace RemoteTail

namespace Cursor

variable {σ : Type} {endpoint : Endpoint (StateM σ)} {c : Cursor} {maxLines : Nat} {stream : Bool}

/-- The cursor with another limit, which is not in force in stream mode. -/
def withLimit (c : Cursor) (maxLines : Nat) (stream : Bool) : Cursor :=
  { c with config := { c.config with maxLines, stream } }

theorem dequeue_withLimit (c : Cursor) (maxLines : Nat) (stream : Bool) :
    (c.withLimit maxLines stream).dequeue =
      (c.dequeue.1, c.dequeue.2.withLimit maxLines stream) := by
  rcases c with ⟨file, formatter, config, offset, buffer, emitted⟩
  cases buffer <;> rfl

theorem settle_withLimit (c : Cursor) (maxLines : Nat) (stream : Bool) (reply : Reply) :
    (c.withLimit maxLines stream).settle reply =
      ((c.settle reply).1, (c.settle reply).2.withLimit maxLines stream) := by
  cases reply with
  | error error => rfl
  | ok chunk =>
      have absorb_eq : (c.withLimit maxLines stream).absorb chunk =
          (c.absorb chunk).withLimit maxLines stream := rfl
      simp only [settle, absorb_eq, dequeue_withLimit]

/-- If the limit is reached with both limits or with none, a taking is the same. -/
theorem takeLine_run_withLimit
    (same : (c.withLimit maxLines stream).limitReached = c.limitReached) (world : σ) :
    ((c.withLimit maxLines stream).takeLine endpoint).run world =
      (((c.takeLine endpoint).run world).1.map fun (taking, next) =>
          (taking, next.withLimit maxLines stream),
        ((c.takeLine endpoint).run world).2) := by
  cases limited : c.limitReached with
  | true =>
      rw [limited] at same
      rw [takeLine_run_of_limitReached same, takeLine_run_of_limitReached limited]
      rfl
  | false =>
      rw [limited] at same
      by_cases unread : c.buffer = []
      · rw [takeLine_run_of_buffer_nil same unread, takeLine_run_of_buffer_nil limited unread,
          Option.map_map]
        refine Prod.ext ?_ rfl
        apply Option.map_congr
        intro reply _
        exact c.settle_withLimit maxLines stream reply
      · rw [takeLine_run_of_buffer_ne_nil same unread, takeLine_run_of_buffer_ne_nil limited unread,
          dequeue_withLimit]
        rfl

theorem linesTaken_withLimit
    (same : (c.withLimit maxLines stream).limitReached = c.limitReached) (world : σ) :
    (c.withLimit maxLines stream).linesTaken endpoint world = c.linesTaken endpoint world := by
  rw [linesTaken, linesTaken, takeLine_run_withLimit same]
  cases ((c.takeLine endpoint).run world).1 <;> rfl

theorem pull_run_withLimit
    (same : (c.withLimit maxLines stream).limitReached = c.limitReached) (world : σ) :
    ((c.withLimit maxLines stream).pull endpoint).run world =
      (((c.pull endpoint).run world).1.map fun (pulled, next) =>
          (pulled, next.withLimit maxLines stream),
        ((c.pull endpoint).run world).2) := by
  rw [pull_run, pull_run, takeLine_run_withLimit same, Option.map_map, Option.map_map]
  refine Prod.ext ?_ rfl
  apply Option.map_congr
  rintro ⟨taking, next⟩ _
  rfl

theorem pullUntil_run_withLimit
    (same : (c.withLimit maxLines stream).limitReached = c.limitReached)
    (cancellation : Cancellation) (world : σ) :
    ((c.withLimit maxLines stream).pullUntil endpoint cancellation).run world =
      (((c.pullUntil endpoint cancellation).run world).1.map fun (pulled, next) =>
          (pulled, next.withLimit maxLines stream),
        ((c.pullUntil endpoint cancellation).run world).2) := by
  cases cancellation with
  | before => rfl
  | never => exact pull_run_withLimit same world
  | waiting =>
      rw [pullUntil_run_waiting, pullUntil_run_waiting, pull_run_withLimit same]
      cases ((c.pull endpoint).run world).1 <;> rfl

/-! ## A limit that is reached -/

/-- A pull makes no read once the limit is reached. -/
theorem pull_of_limitReached {m : Type → Type} [Monad m] (endpoint : Endpoint m)
    (limited : c.limitReached = true) : c.pull endpoint = pure (some (.ok none, c)) := by
  rw [pull, if_pos limited]

end Cursor

namespace Reading

open Cursor Simulation

variable {σ : Type} {endpoint : Endpoint (StateM σ)}

/-- The reading with another limit. -/
def withLimit (reading : Reading σ) (maxLines : Nat) (stream : Bool) : Reading σ :=
  { reading with cursor := reading.cursor.withLimit maxLines stream }

section

variable {reading : Reading σ} {maxLines : Nat} {stream : Bool}

/-- An event leads to the same, unless only one of the limits is reached. -/
theorem next_withLimit
    (same : (reading.cursor.withLimit maxLines stream).limitReached = reading.cursor.limitReached)
    (event : Event σ) :
    (reading.withLimit maxLines stream).given endpoint event = reading.given endpoint event ∧
      (reading.withLimit maxLines stream).next endpoint event =
        (reading.next endpoint event).withLimit maxLines stream := by
  rcases reading with ⟨c, world, lines⟩
  cases event with
  | change become => exact ⟨rfl, rfl⟩
  | pull cancellation =>
      have pulls := @pullUntil_run_withLimit _ endpoint c maxLines stream same cancellation world
      have lines_eq : (c.withLimit maxLines stream).linesTakenUntil endpoint world cancellation =
          c.linesTakenUntil endpoint world cancellation := by
        cases cancellation with
        | before => rfl
        | waiting => exact linesTaken_withLimit same world
        | never => exact linesTaken_withLimit same world
      simp only [given, next, withLimit, pulls, lines_eq, Option.map_map]
      cases ((c.pullUntil endpoint cancellation).run world).1 with
      | none => exact ⟨rfl, rfl⟩
      | some pulled => exact ⟨rfl, rfl⟩

/-- A course leads to the same if the limits agree on whether they are reached before each of its
events. -/
theorem results_withLimit {events : List (Event σ)}
    (same : ∀ first event rest, events = first ++ event :: rest →
      ((after endpoint first reading).cursor.withLimit maxLines stream).limitReached =
        (after endpoint first reading).cursor.limitReached) :
    results endpoint events (reading.withLimit maxLines stream) =
        results endpoint events reading ∧
      after endpoint events (reading.withLimit maxLines stream) =
        (after endpoint events reading).withLimit maxLines stream := by
  induction events generalizing reading with
  | nil => exact ⟨rfl, rfl⟩
  | cons event events ih =>
      have now : (reading.cursor.withLimit maxLines stream).limitReached =
          reading.cursor.limitReached := same [] event events rfl
      obtain ⟨given_eq, next_eq⟩ := @next_withLimit _ endpoint _ _ _ now event
      have rest : ∀ first later rest, events = first ++ later :: rest →
          ((after endpoint first (reading.next endpoint event)).cursor.withLimit maxLines
              stream).limitReached =
            (after endpoint first (reading.next endpoint event)).cursor.limitReached := by
        rintro first later rest rfl
        exact same (event :: first) later rest rfl
      obtain ⟨results_eq, after_eq⟩ := ih rest
      rw [results_cons, results_cons, after_cons, after_cons, given_eq, next_eq, results_eq,
        after_eq]
      exact ⟨rfl, rfl⟩

end

/-- Once the limit is reached, a pull finds nothing and changes nothing. -/
theorem pull_of_limitReached {reading : Reading σ} (limited : reading.cursor.limitReached = true)
    (cancellation : Cancellation) :
    (reading.given endpoint (.pull cancellation) = [some (.ok none)] ∨
        reading.given endpoint (.pull cancellation) = [some (.error .cancelled)]) ∧
      reading.next endpoint (.pull cancellation) = reading := by
  by_cases willing : cancellation = .before
  · subst willing
    obtain ⟨given_eq, next_eq⟩ := @pull_before _ endpoint reading
    exact ⟨.inr given_eq, next_eq⟩
  · obtain ⟨given_eq, next_eq⟩ := @pull_of_taken _ endpoint _ _ _ _ reading.lines _ _ willing
      (takeLine_run_of_limitReached limited reading.world)
    rw [show Taking.lines (.ok none) = [] from rfl, List.append_nil] at next_eq
    exact ⟨.inl given_eq, next_eq⟩

/-- Once the limit is reached, no course takes another line. -/
theorem after_of_limitReached {reading : Reading σ} (limited : reading.cursor.limitReached = true)
    (events : List (Event σ)) :
    (after endpoint events reading).cursor = reading.cursor ∧
      (after endpoint events reading).lines = reading.lines ∧
      ∀ result ∈ results endpoint events reading,
        result = some (.ok none) ∨ result = some (.error .cancelled) := by
  induction events generalizing reading with
  | nil =>
      refine ⟨rfl, rfl, ?_⟩
      intro result member
      cases member
  | cons event events ih =>
      cases event with
      | change become => exact @ih { reading with world := become reading.world } limited
      | pull cancellation =>
          obtain ⟨given_eq, next_eq⟩ := @pull_of_limitReached _ endpoint _ limited cancellation
          obtain ⟨cursor_eq, lines_eq, nothing⟩ := ih limited
          rw [after_cons, results_cons, next_eq]
          refine ⟨cursor_eq, lines_eq, ?_⟩
          intro result member
          rcases List.mem_append.mp member with now | later
          · rcases given_eq with given_eq | given_eq
            · rw [given_eq] at now
              exact .inl (List.mem_singleton.mp now)
            · rw [given_eq] at now
              exact .inr (List.mem_singleton.mp now)
          · exact nothing result later

/-! ## What a course keeps -/

/-- The count is the number of terminated lines that have been handed out. -/
def Counts (reading : Reading σ) : Prop :=
  reading.cursor.emitted = reading.lines.countP (·.terminated)

theorem Counts.next {reading : Reading σ} (counts : reading.Counts) (event : Event σ) :
    (reading.next endpoint event).Counts := by
  cases event with
  | change become => exact counts
  | pull cancellation =>
      rcases pull_cases endpoint reading cancellation with
        ⟨taking, cursor, world, taken, _, next_eq⟩ | ⟨world, _, _, next_eq⟩
      · rw [next_eq, Counts, List.countP_append, takeLine_emitted taken, counts]
      · rw [next_eq]
        exact counts

theorem emitted_le_next (endpoint : Endpoint (StateM σ)) (reading : Reading σ) (event : Event σ) :
    reading.cursor.emitted ≤ (reading.next endpoint event).cursor.emitted := by
  cases event with
  | change become => exact Nat.le_refl _
  | pull cancellation =>
      rcases pull_cases endpoint reading cancellation with
        ⟨taking, cursor, world, taken, _, next_eq⟩ | ⟨world, _, _, next_eq⟩
      · rw [next_eq, takeLine_emitted taken]
        exact Nat.le_add_right ..
      · rw [next_eq]

/-- The count never goes back. -/
theorem emitted_le_after (endpoint : Endpoint (StateM σ)) (events : List (Event σ))
    (reading : Reading σ) :
    reading.cursor.emitted ≤ (after endpoint events reading).cursor.emitted := by
  apply after_induction (motive := fun later => reading.cursor.emitted ≤ later.cursor.emitted)
  · exact Nat.le_refl _
  · intro event _ later reached
    exact Nat.le_trans reached (emitted_le_next endpoint later event)

/-- Outside stream mode, either more lines may be handed out or a terminated line was the last. -/
theorem withinLimit_next {reading : Reading σ} (finite : reading.cursor.config.stream = false)
    (within : reading.cursor.WithinLimit reading.lines) (event : Event σ) :
    (reading.next endpoint event).cursor.WithinLimit (reading.next endpoint event).lines := by
  cases event with
  | change become => exact within
  | pull cancellation =>
      rcases pull_cases endpoint reading cancellation with
        ⟨taking, cursor, world, taken, _, next_eq⟩ | ⟨world, _, _, next_eq⟩
      · rw [next_eq]
        exact within.takeLine finite taken
      · rw [next_eq]
        exact within

theorem withinLimit_after {reading : Reading σ} (finite : reading.cursor.config.stream = false)
    (within : reading.cursor.WithinLimit reading.lines) (events : List (Event σ)) :
    (after endpoint events reading).cursor.WithinLimit (after endpoint events reading).lines := by
  induction events generalizing reading with
  | nil => exact within
  | cons event events ih =>
      apply ih
      · rw [(next_setup endpoint reading event).2.2]
        exact finite
      · exact withinLimit_next finite within event

/-! ## Limits compared -/

section

variable {reading : Reading σ} {maxLines : Nat} {stream : Bool} {events : List (Event σ)}

/-- In stream mode, no limit makes a difference. -/
theorem results_withLimit_of_stream (endless : reading.cursor.config.stream = true)
    (maxLines : Nat) (events : List (Event σ)) :
    results endpoint events (reading.withLimit maxLines true) = results endpoint events reading ∧
      after endpoint events (reading.withLimit maxLines true) =
        (after endpoint events reading).withLimit maxLines true := by
  apply results_withLimit
  rintro first event rest rfl
  have config_eq := (after_setup endpoint first reading).2.2
  simp [limitReached, Cursor.withLimit, config_eq, endless]

/-- Outside stream mode, no greater limit makes a difference up to the event with which the limit
may be reached. -/
theorem results_withLimit_of_lt {event : Event σ} (finite : reading.cursor.config.stream = false)
    (free : (after endpoint events reading).cursor.emitted < reading.cursor.config.maxLines)
    (above : stream = true ∨ reading.cursor.config.maxLines ≤ maxLines) :
    results endpoint (events ++ [event]) (reading.withLimit maxLines stream) =
        results endpoint (events ++ [event]) reading ∧
      after endpoint (events ++ [event]) (reading.withLimit maxLines stream) =
        (after endpoint (events ++ [event]) reading).withLimit maxLines stream := by
  apply results_withLimit
  intro first later rest split
  obtain ⟨more, rfl⟩ : first <+: events := by
    rcases List.prefix_concat_iff.mp ⟨later :: rest, split.symm⟩ with whole | inside
    · have lengths := congrArg List.length split
      simp only [whole, List.length_append, List.length_cons] at lengths
      omega
    · exact inside
  have config_eq := (after_setup endpoint first reading).2.2
  have reached := emitted_le_after endpoint more (after endpoint first reading)
  rw [← after_append] at reached
  have free_now := Nat.lt_of_le_of_lt reached free
  have unlimited : (after endpoint first reading).cursor.limitReached = false := by
    simp [limitReached, config_eq, finite, free_now]
  rw [unlimited]
  rcases above with rfl | above
  · simp [limitReached, Cursor.withLimit]
  · have below := Nat.lt_of_lt_of_le free_now above
    simp only [limitReached, Cursor.withLimit, Bool.and_eq_false_imp]
    intro _
    exact decide_eq_false (Nat.not_le_of_lt below)

end

/-! ## From a start -/

/-- The limit cuts a course at one place.  The count is the number of terminated lines handed out.
Outside stream mode it never exceeds the limit; once it has reached it, a terminated line was the
last, no pull makes a read or finds anything, and nothing changes any more.  Until then the course is
the one of the same cursor with a greater limit or with none, up to and including the event that
reaches the limit.  In stream mode the limit makes no difference. -/
theorem limit_of_start {coordinates : TaskCoordinates} {name : String} {formatter : Formatter}
    {config : ReadConfig} {world₀ world : σ} {c : Cursor} {events : List (Event σ)}
    {reading : Reading σ}
    (started : (Cursor.start endpoint coordinates name formatter config).run world₀ =
      (some (.ok c), world))
    (course : after endpoint events ⟨c, world, []⟩ = reading) :
    reading.cursor.emitted = reading.lines.countP (·.terminated) ∧
      (config.stream = false →
        reading.cursor.emitted ≤ config.maxLines ∧
        (reading.cursor.emitted = config.maxLines →
          (∃ line, reading.lines.getLast? = some line ∧ line.terminated = true) ∧
          reading.cursor.pull endpoint = pure (some (.ok none, reading.cursor)) ∧
          ∀ further, (after endpoint further reading).cursor = reading.cursor ∧
            (after endpoint further reading).lines = reading.lines ∧
            ∀ result ∈ results endpoint further reading,
              result = some (.ok none) ∨ result = some (.error .cancelled)) ∧
        (reading.cursor.emitted < config.maxLines → ∀ event maxLines stream,
          stream = true ∨ config.maxLines ≤ maxLines →
            results endpoint (events ++ [event]) ⟨c.withLimit maxLines stream, world, []⟩ =
                results endpoint (events ++ [event]) ⟨c, world, []⟩ ∧
              after endpoint (events ++ [event]) ⟨c.withLimit maxLines stream, world, []⟩ =
                (after endpoint (events ++ [event]) ⟨c, world, []⟩).withLimit maxLines stream)) ∧
      (config.stream = true → ∀ maxLines,
        results endpoint events ⟨c.withLimit maxLines true, world, []⟩ =
            results endpoint events ⟨c, world, []⟩ ∧
          after endpoint events ⟨c.withLimit maxLines true, world, []⟩ =
            reading.withLimit maxLines true) := by
  obtain ⟨sound, offset, rfl, _⟩ := start_cases started
  obtain ⟨some_line, _⟩ := positive_of_validate (validate_of_checked sound)
  subst course
  have config_eq := (after_setup endpoint events
    ⟨fresh coordinates name formatter config offset, world, []⟩).2.2
  have counts : (after endpoint events
      ⟨fresh coordinates name formatter config offset, world, []⟩).Counts := by
    apply after_induction
    · rfl
    · intro event _ reading counts
      exact counts.next event
  refine ⟨counts, ?_, ?_⟩
  · intro finite
    have within := @withinLimit_after _ endpoint
      ⟨fresh coordinates name formatter config offset, world, []⟩ finite (.of_lt some_line) events
    have emitted_le := within.emitted_le
    have ends := within.ends
    rw [config_eq] at emitted_le ends
    refine ⟨emitted_le, ?_, ?_⟩
    · intro reached
      have limited : (after endpoint events
          ⟨fresh coordinates name formatter config offset, world, []⟩).cursor.limitReached =
            true := by
        rw [within.limitReached_iff (by rw [config_eq]; exact finite), config_eq]
        exact reached
      refine ⟨ends reached, Cursor.pull_of_limitReached endpoint limited, ?_⟩
      intro further
      exact after_of_limitReached limited further
    · intro free event maxLines stream above
      exact results_withLimit_of_lt finite free above
  · intro endless maxLines
    exact @results_withLimit_of_stream _ endpoint
      ⟨fresh coordinates name formatter config offset, world, []⟩ endless maxLines events

/-- A limit of one line, which is reached with the second piece of the line. -/
theorem limit_of_start_of_pieces :
    let service : Service ReadReply :=
      { source := .script [.chunk [0x61, 0x62] none, .chunk [0x63, 0x0A, 0x64, 0x0A] none] }
    ∃ c reading,
      (Cursor.start serviceEndpoint ⟨"agent", "framework", "executor", "container", none⟩ "stdout"
          OutputFormat.text.formatter { maxLines := 1, chunkSize := 2 }).run service =
            (some (.ok c), service) ∧
        after serviceEndpoint [.pull .never, .pull .never] ⟨c, service, []⟩ = reading ∧
        reading.cursor.buffer = [⟨[0x64], 4, true⟩] ∧
        (∃ line, reading.lines.getLast? = some line ∧ line.terminated = true) ∧
        reading.cursor.pull serviceEndpoint = pure (some (.ok none, reading.cursor)) := by
  intro service
  let coordinates : TaskCoordinates := ⟨"agent", "framework", "executor", "container", none⟩
  let config : ReadConfig := { maxLines := 1, chunkSize := 2 }
  let c := fresh coordinates "stdout" OutputFormat.text.formatter config 0
  have started := @start_run_topToBottom coordinates "stdout" OutputFormat.text.formatter config _
    serviceEndpoint rfl rfl service
  have limit := @limit_of_start _ serviceEndpoint _ _ _ _ _ _ c [.pull .never, .pull .never] _
    started rfl
  obtain ⟨_, finite, _⟩ := limit
  obtain ⟨_, reached, _⟩ := finite rfl
  obtain ⟨ends, nothing, _⟩ := reached (by decide +kernel)
  exact ⟨c, _, started, rfl, by decide +kernel, ends, nothing⟩

end Reading

end RemoteTail

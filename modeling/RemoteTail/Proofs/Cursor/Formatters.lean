import RemoteTail.Proofs.Cursor.Exchanges

/-!
# Formatters

A formatter comes in last: a pull has taken its line and counted it before the
line is shown to the formatter.  So nothing that is read depends on formatters,
and a line that is refused has been handed out like any other.

`Outcome` is what a pull comes to before anything is written.  Whatever formatter a
reading has, its course has the same outcomes and leads to the same cursor
(`Reading.exists_outcomes`), and its results are these outcomes, written.
-/

namespace RemoteTail

/-- What a formatter makes of a line that has been taken. -/
def Formatter.pulled (formatter : Formatter) (line : Line) : Pulled :=
  match formatter.line line with
  | .error error => .error (.format error)
  | .ok block => .ok (some block)

/-- What a pull comes to before anything is written. -/
inductive Outcome where
  /-- The pull has not come to its end. -/
  | unfinished (cancellation : Cursor.Cancellation)
  /-- The pull has found the end of the data. -/
  | nothing
  /-- The read of the pull has failed. -/
  | failed (error : FetchError)
  /-- The pull has taken a line. -/
  | taken (line : Line)

namespace Outcome

/-- The outcome of a pull that has come to its end. -/
def ofTaking : Taking → Outcome
  | .error error => failed error
  | .ok none => nothing
  | .ok (some line) => taken line

/-- The line that has been taken, if there is one. -/
def lines : Outcome → List Line
  | taken line => [line]
  | _ => []

/-- What the pull gives if it writes with a formatter. -/
def result (formatter : Formatter) : Outcome → Option Pulled
  | unfinished cancellation => cancellation.unfinished
  | nothing => some (.ok none)
  | failed error => some (.error (.fetch error))
  | taken line => some (formatter.pulled line)

@[simp]
theorem lines_ofTaking (taking : Taking) : (ofTaking taking).lines = taking.lines := by
  match taking with
  | .error _ => rfl
  | .ok none => rfl
  | .ok (some _) => rfl

theorem result_ofTaking (c : Cursor) (taking : Taking) :
    (ofTaking taking).result c.formatter = some (c.written taking) := by
  match taking with
  | .error _ => rfl
  | .ok none => rfl
  | .ok (some _) => rfl

/-- Formatters that agree on the lines of outcomes write them in the same way. -/
theorem map_result_congr {formatter other : Formatter} {outcomes : List Outcome}
    (agree : ∀ line ∈ outcomes.flatMap lines, other.line line = formatter.line line) :
    outcomes.map (result other) = outcomes.map (result formatter) := by
  apply List.map_congr_left
  intro outcome member
  cases outcome with
  | taken line =>
      have same := agree line (List.mem_flatMap.mpr ⟨_, member, List.mem_singleton_self line⟩)
      rw [result, result, Formatter.pulled, Formatter.pulled, same]
  | _ => rfl

end Outcome

namespace Cursor

variable {σ : Type} {endpoint : Endpoint (StateM σ)}

/-- The cursor with another formatter. -/
def withFormatter (c : Cursor) (formatter : Formatter) : Cursor :=
  { c with formatter }

theorem dequeue_withFormatter (c : Cursor) (formatter : Formatter) :
    (c.withFormatter formatter).dequeue =
      (c.dequeue.1, c.dequeue.2.withFormatter formatter) := by
  rcases c with ⟨file, _, config, offset, buffer, emitted⟩
  cases buffer <;> rfl

theorem settle_withFormatter (c : Cursor) (formatter : Formatter) (reply : Reply) :
    (c.withFormatter formatter).settle reply =
      ((c.settle reply).1, (c.settle reply).2.withFormatter formatter) := by
  cases reply with
  | error error => rfl
  | ok chunk =>
      have absorb_eq : (c.withFormatter formatter).absorb chunk =
          (c.absorb chunk).withFormatter formatter := rfl
      simp only [settle, absorb_eq, dequeue_withFormatter]

/-- A taking is the same with every formatter. -/
theorem takeLine_run_withFormatter (c : Cursor) (formatter : Formatter) (world : σ) :
    ((c.withFormatter formatter).takeLine endpoint).run world =
      (((c.takeLine endpoint).run world).1.map fun (taking, next) =>
          (taking, next.withFormatter formatter),
        ((c.takeLine endpoint).run world).2) := by
  by_cases asks : c.Asks
  · rw [takeLine_of_asks asks, @takeLine_of_asks _ (c.withFormatter formatter) asks,
      Option.map_map]
    refine Prod.ext ?_ rfl
    apply Option.map_congr
    intro reply _
    exact c.settle_withFormatter formatter reply
  · cases limited : c.limitReached with
    | true =>
        have same : (c.withFormatter formatter).limitReached = true := limited
        rw [takeLine_run_of_limitReached same, takeLine_run_of_limitReached limited]
        rfl
    | false =>
        have stored : c.buffer ≠ [] := fun unread =>
          asks ⟨limitReached_eq_false_iff.mp limited, unread⟩
        have same : (c.withFormatter formatter).limitReached = false := limited
        rw [takeLine_run_of_buffer_ne_nil same stored,
          takeLine_run_of_buffer_ne_nil limited stored, dequeue_withFormatter]
        rfl

/-- A start goes the same way with every formatter, whether it fails or not. -/
theorem start_run_withFormatter (coordinates : TaskCoordinates) (name : String)
    (formatter other : Formatter) (config : ReadConfig) (world : σ) :
    (start endpoint coordinates name other config).run world =
      (((start endpoint coordinates name formatter config).run world).1.map
          (Except.map fun c => c.withFormatter other),
        ((start endpoint coordinates name formatter config).run world).2) := by
  cases sound : checked coordinates name config with
  | error error =>
      rw [start_run_unsound sound, start_run_unsound sound]
      rfl
  | ok _ =>
      cases direction : config.direction with
      | topToBottom =>
          rw [start_run_topToBottom sound direction, start_run_topToBottom sound direction]
          rfl
      | bottomToTop =>
          rw [start_run_bottomToTop sound direction, start_run_bottomToTop sound direction]
          rcases (RemoteFile.locateTail ⟨coordinates.filePath name, config.headers⟩ endpoint
            config.maxLines config.chunkSize 0).run world with ⟨_ | _ | _, _⟩ <;> rfl

/-- A line that is taken stood first: in the buffer, or in what has just been read. -/
theorem line_cons_buffer {c next : Cursor} {line : Line} {world world' : σ}
    {record record' : List Exchange}
    (taken : (c.takeLine endpoint.noting).run (world, record) =
      (some (.ok (some line), next), world', record')) :
    line :: next.buffer = c.buffer ∨
      c.buffer = [] ∧ line :: next.buffer = Exchange.latestLines record' := by
  rcases takeLine_cases taken with
    ⟨_, nothing, _⟩ | ⟨_, unread, reply, answered, found, rfl⟩ | ⟨_, _, found, rfl, _⟩
  · cases nothing
  · right
    cases reply with
    | error error => cases found
    | ok chunk =>
        have parts := (c.absorb chunk).lines_dequeue_append
        change Except.ok (some line) = (.ok (c.absorb chunk).dequeue.1 : Taking) at found
        rw [← found] at parts
        rw [RemoteFile.fetch, Endpoint.noting_read_run] at answered
        obtain ⟨reply_eq, world_eq⟩ := Prod.mk.inj answered
        rw [← (Prod.mk.inj world_eq).2, reply_eq,
          Exchange.latestLines_concat_of_some rfl, ← absorb_buffer_of_unread unread]
        exact ⟨unread, parts⟩
  · left
    have parts := c.lines_dequeue_append
    rw [← found] at parts
    exact parts

end Cursor

namespace Reading

open Cursor Simulation

variable {σ : Type} {endpoint : Endpoint (StateM σ)}

/-- The reading with another formatter. -/
def withFormatter (reading : Reading σ) (formatter : Formatter) : Reading σ :=
  { reading with cursor := reading.cursor.withFormatter formatter }

/-- An event has the same outcome with every formatter, and leads to the same. -/
theorem next_withFormatter (reading : Reading σ) (event : Event σ) :
    ∃ outcomes : List Outcome,
      (reading.next endpoint event).lines = reading.lines ++ outcomes.flatMap Outcome.lines ∧
        ∀ formatter,
          (reading.withFormatter formatter).given endpoint event =
              outcomes.map (Outcome.result formatter) ∧
            (reading.withFormatter formatter).next endpoint event =
              (reading.next endpoint event).withFormatter formatter := by
  rcases reading with ⟨c, world, lines⟩
  cases event with
  | change become => exact ⟨[], (List.append_nil _).symm, fun _ => ⟨rfl, rfl⟩⟩
  | pull cancellation =>
      by_cases willing : cancellation = .before
      · subst willing
        refine ⟨[.unfinished .before], ?_, ?_⟩
        · rw [(pull_before _).2]
          exact (List.append_nil _).symm
        · intro formatter
          rw [(pull_before _).1, (pull_before _).2, (pull_before _).2]
          exact ⟨rfl, rfl⟩
      have other := fun formatter =>
        @takeLine_run_withFormatter _ endpoint c formatter world
      rcases taken : (c.takeLine endpoint).run world with ⟨_ | ⟨taking, cursor⟩, world'⟩
      · simp only [taken, Option.map_none] at other
        refine ⟨[.unfinished cancellation], ?_, ?_⟩
        · rw [(pull_of_outstanding willing taken).2]
          exact (List.append_nil _).symm
        · intro formatter
          obtain ⟨given_eq, next_eq⟩ :=
            @pull_of_outstanding _ _ _ _ _ lines _ willing (other formatter)
          rw [(pull_of_outstanding willing taken).2]
          exact ⟨given_eq, next_eq⟩
      · simp only [taken, Option.map_some] at other
        refine ⟨[.ofTaking taking], ?_, ?_⟩
        · rw [(pull_of_taken willing taken).2, List.flatMap_singleton, Outcome.lines_ofTaking]
        · intro formatter
          obtain ⟨given_eq, next_eq⟩ :=
            @pull_of_taken _ _ _ _ _ _ lines _ _ willing (other formatter)
          rw [(pull_of_taken willing taken).2, List.map_singleton]
          refine ⟨given_eq.trans ?_, next_eq⟩
          rw [← Outcome.result_ofTaking]
          rfl

/-- A course has the same outcomes with every formatter, and leads to the same. -/
theorem exists_outcomes (events : List (Event σ)) (reading : Reading σ) :
    ∃ outcomes : List Outcome,
      (after endpoint events reading).lines =
          reading.lines ++ outcomes.flatMap Outcome.lines ∧
        ∀ formatter,
          results endpoint events (reading.withFormatter formatter) =
              outcomes.map (Outcome.result formatter) ∧
            after endpoint events (reading.withFormatter formatter) =
              (after endpoint events reading).withFormatter formatter := by
  induction events generalizing reading with
  | nil => exact ⟨[], (List.append_nil _).symm, fun _ => ⟨rfl, rfl⟩⟩
  | cons event events ih =>
      obtain ⟨now, now_lines, now_same⟩ := @next_withFormatter _ endpoint reading event
      obtain ⟨rest, rest_lines, rest_same⟩ := ih (reading.next endpoint event)
      refine ⟨now ++ rest, ?_, ?_⟩
      · rw [after_cons, rest_lines, now_lines, List.flatMap_append, List.append_assoc]
      · intro formatter
        obtain ⟨given_eq, next_eq⟩ := now_same formatter
        obtain ⟨results_eq, after_eq⟩ := rest_same formatter
        rw [results_cons, after_cons, after_cons, given_eq, next_eq, results_eq, after_eq,
          List.map_append]
        exact ⟨rfl, rfl⟩

/-- Formatters that agree on the lines that a course takes give the same results. -/
theorem results_withFormatter_of_agree {reading : Reading σ} {other : Formatter}
    {events : List (Event σ)}
    (agree : ∀ line ∈ (after endpoint events reading).lines.drop reading.lines.length,
      other.line line = reading.cursor.formatter.line line) :
    results endpoint events (reading.withFormatter other) = results endpoint events reading := by
  obtain ⟨outcomes, lines_eq, same⟩ := @exists_outcomes _ endpoint events reading
  rw [lines_eq, List.drop_left] at agree
  rw [(same other).1, Outcome.map_result_congr agree]
  exact (same reading.cursor.formatter).1.symm

/-- A line that is refused has been taken and counted like any other. -/
theorem pull_of_refused {reading : Reading (σ × List Exchange)} {cancellation : Cancellation}
    {error : FormatError}
    (refused : reading.given endpoint.noting (.pull cancellation) =
      [some (.error (.format error))]) :
    let next := reading.next endpoint.noting (.pull cancellation)
    ∃ line, reading.cursor.formatter.line line = .error error ∧
      next.lines = reading.lines ++ [line] ∧
      next.cursor.emitted = reading.cursor.emitted + (if line.terminated then 1 else 0) ∧
      (line :: next.cursor.buffer = reading.cursor.buffer ∨
        reading.cursor.buffer = [] ∧
          line :: next.cursor.buffer = Exchange.latestLines next.world.2) := by
  intro next
  rcases pull_cases endpoint.noting reading cancellation with
    ⟨taking, cursor, world, taken, given_eq, next_eq⟩ | ⟨world, _, given_eq, _⟩
  · rw [given_eq, ← Outcome.result_ofTaking] at refused
    have result_eq := List.singleton_inj.mp refused
    match taking with
    | .error error => cases result_eq
    | .ok none => cases result_eq
    | .ok (some line) =>
        refine ⟨line, ?_, ?_, ?_, ?_⟩
        · change some (reading.cursor.formatter.pulled line) = _ at result_eq
          unfold Formatter.pulled at result_eq
          split at result_eq
          · rename_i met fails
            cases result_eq
            exact fails
          · cases result_eq
        · exact congrArg Reading.lines next_eq
        · rw [show next.cursor = cursor from congrArg Reading.cursor next_eq,
            takeLine_emitted taken, Taking.lines, List.countP_singleton]
        · rw [show next = ⟨cursor, world, reading.lines ++ [line]⟩ from next_eq]
          exact line_cons_buffer taken
  · rw [given_eq] at refused
    cases cancellation <;> cases refused

/-- Formatters do not influence what is read.  With two formatters a cursor is started in the same
way, or fails in the same way.  Every course then makes the same exchanges and leads to the same
position, buffer and count, and the results of its pulls are the same outcomes, each written by its
own formatter.  A pull whose line is refused has taken this line and no other, and has counted it if it
is terminated; what follows is what a formatter would give that had not refused it. -/
theorem formatters_of_start (endpoint : Endpoint (StateM σ)) (coordinates : TaskCoordinates)
    (name : String) (formatter other : Formatter) (config : ReadConfig) (world₀ : σ) :
    let started :=
      (Cursor.start endpoint.noting coordinates name formatter config).run (world₀, [])
    (Cursor.start endpoint.noting coordinates name other config).run (world₀, []) =
        (started.1.map (Except.map fun c => c.withFormatter other), started.2) ∧
      ∀ c, started.1 = some (.ok c) → ∀ events : List (Event σ),
        let course := events.map Event.beside
        let reading := after endpoint.noting course ⟨c, started.2, []⟩
        let otherReading := after endpoint.noting course ⟨c.withFormatter other, started.2, []⟩
        otherReading.world = reading.world ∧
          otherReading.cursor.offset = reading.cursor.offset ∧
          otherReading.cursor.buffer = reading.cursor.buffer ∧
          otherReading.cursor.emitted = reading.cursor.emitted ∧
          (∃ outcomes : List Outcome,
            results endpoint.noting course ⟨c, started.2, []⟩ =
                outcomes.map (Outcome.result formatter) ∧
              results endpoint.noting course ⟨c.withFormatter other, started.2, []⟩ =
                outcomes.map (Outcome.result other) ∧
              reading.lines = outcomes.flatMap Outcome.lines ∧
              otherReading.lines = outcomes.flatMap Outcome.lines) ∧
          ∀ cancellation error,
            reading.given endpoint.noting (.pull cancellation) =
              [some (.error (.format error))] →
            let next := reading.next endpoint.noting (.pull cancellation)
            let otherNext := otherReading.next endpoint.noting (.pull cancellation)
            (∃ line, formatter.line line = .error error ∧
              next.lines = reading.lines ++ [line] ∧
              next.cursor.emitted = reading.cursor.emitted + (if line.terminated then 1 else 0) ∧
              (line :: next.cursor.buffer = reading.cursor.buffer ∨
                reading.cursor.buffer = [] ∧
                  line :: next.cursor.buffer = Exchange.latestLines next.world.2)) ∧
            ∀ further : List (Event σ),
              let course := further.map Event.beside
              (∀ line ∈ (after endpoint.noting course next).lines.drop next.lines.length,
                  other.line line = formatter.line line) →
                results endpoint.noting course otherNext =
                  results endpoint.noting course next := by
  intro started
  refine ⟨start_run_withFormatter .., ?_⟩
  intro c ready events course reading otherReading
  obtain ⟨_, offset, rfl, _⟩ := start_cases (Prod.ext ready rfl : started = (some (.ok c), _))
  obtain ⟨outcomes, lines_eq, same⟩ := @exists_outcomes _ endpoint.noting course
    ⟨fresh coordinates name formatter config offset, started.2, []⟩
  have other_eq : otherReading = reading.withFormatter other := (same other).2
  have formatter_eq : reading.cursor.formatter = formatter :=
    (after_setup endpoint.noting course _).2.1
  refine ⟨by rw [other_eq]; rfl, by rw [other_eq]; rfl, by rw [other_eq]; rfl,
    by rw [other_eq]; rfl, ⟨outcomes, (same formatter).1, (same other).1, lines_eq, ?_⟩, ?_⟩
  · rw [other_eq]
    exact lines_eq
  intro cancellation error refused next otherNext
  have taken := pull_of_refused refused
  rw [formatter_eq] at taken
  refine ⟨taken, ?_⟩
  intro further course agree
  obtain ⟨_, _, next_same⟩ :=
    @next_withFormatter _ endpoint.noting reading (.pull cancellation)
  have next_formatter : next.cursor.formatter = formatter :=
    (next_setup endpoint.noting reading (.pull cancellation)).2.1.trans formatter_eq
  rw [← next_formatter] at agree
  have otherNext_eq : otherNext = next.withFormatter other := by
    rw [← (next_same other).2, ← other_eq]
  rw [otherNext_eq]
  exact results_withFormatter_of_agree agree

/-- The second of three lines is refused; the third follows it. -/
theorem formatters_of_start_of_refused :
    let service : Service ReadReply :=
      { source := .script [.chunk [0x61, 0x0A, 0x21, 0x0A, 0x62, 0x0A] none] }
    let strict : Formatter := { OutputFormat.text.formatter with
      line := fun line =>
        if 0x21 ∈ line.message then .error (.encoding "refused") else .ok line.bytes }
    let coordinates : TaskCoordinates := ⟨"agent", "framework", "executor", "container", none⟩
    let c := fresh coordinates "stdout" strict {} 0
    let reading := after serviceEndpoint.noting [.pull .never] ⟨c, (service, []), []⟩
    let next := reading.next serviceEndpoint.noting (.pull .never)
    reading.given serviceEndpoint.noting (.pull .never) =
        [some (.error (.format (.encoding "refused")))] ∧
      (∃ line, next.lines = reading.lines ++ [line] ∧
        next.cursor.emitted = reading.cursor.emitted + (if line.terminated then 1 else 0)) ∧
      results serviceEndpoint.noting [.pull .never]
          (after serviceEndpoint.noting [.pull .never, .pull .never]
            ⟨c.withFormatter OutputFormat.text.formatter, (service, []), []⟩) =
        results serviceEndpoint.noting [.pull .never] next := by
  intro service strict coordinates c reading next
  obtain ⟨_, courses⟩ := formatters_of_start serviceEndpoint coordinates "stdout" strict
    OutputFormat.text.formatter {} service
  obtain ⟨_, _, _, _, _, refusals⟩ := courses c rfl [.pull .never]
  have refused : reading.given serviceEndpoint.noting (.pull .never) =
      [some (.error (.format (.encoding "refused")))] := by decide +kernel
  obtain ⟨⟨line, _, lines_eq, emitted_eq, _⟩, onward⟩ := refusals .never _ refused
  exact ⟨refused, ⟨line, lines_eq, emitted_eq⟩, onward [.pull .never] (by decide +kernel)⟩

end Reading

end RemoteTail

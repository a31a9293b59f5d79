import RemoteTail.Proofs.Cursor.Course
import RemoteTail.Proofs.Cursor.Start
import RemoteTail.Proofs.Line.Words
import RemoteTail.Proofs.Remote.Exchange

/-!
# What a cursor asks for

A pull reads only if it has to, and then once: from the position of the next read
on, and as much as a window holds.  It never reads ahead.  The cursor moves on by
what the chunk gives, and what is held back of the chunk will be asked for again.

Nothing is assumed of the endpoint.  `Consults` is all that a pull can do with it;
the rest follows case by case, and for a whole course by induction
(`Reading.exchanges_of_start`).
-/

namespace RemoteTail

variable {σ : Type}

namespace Exchange

/-- The lines that a read of octets gives, if it has succeeded.  They begin where the read has asked
for them, whatever offset the chunk comes with. -/
def lines? (exchange : Exchange) : Option (List Line) :=
  match exchange.request.range, exchange.reply with
  | .bytes offset length, some (.ok chunk) => some (Cursor.chunkLines chunk.data offset length)
  | _, _ => none

/-- The lines of the last read in a record that has succeeded. -/
def latestLines (record : List Exchange) : List Line :=
  (record.filterMap lines?).getLast?.getD []

variable {record : List Exchange} {exchange : Exchange} {lines : List Line}

theorem latestLines_concat_of_none (unsuccessful : exchange.lines? = none) :
    latestLines (record ++ [exchange]) = latestLines record := by
  rw [latestLines, List.filterMap_append, List.filterMap_cons_none unsuccessful,
    List.filterMap_nil, List.append_nil, latestLines]

theorem latestLines_concat_of_some (successful : exchange.lines? = some lines) :
    latestLines (record ++ [exchange]) = lines := by
  rw [latestLines, List.filterMap_append, List.filterMap_cons_some successful, List.filterMap_nil,
    List.getLast?_concat, Option.getD_some]

end Exchange

/-! ## Windows taken in -/

namespace Cursor

/-- How many octets of a chunk are held back: those after its last terminator, unless the chunk is
handed out as a fragment. -/
def heldBack (data : Bytes) (chunkSize : Nat) : Nat :=
  if newline ∉ data ∧ fillsWindow data.length chunkSize = true then 0
  else (split data 0 .forward).withheld

/-- What is not held back of a chunk is in its lines. -/
theorem spans_chunkLines_add_heldBack (data : Bytes) (offset chunkSize : Nat) :
    Line.spans (chunkLines data offset chunkSize) + heldBack data chunkSize = data.length := by
  have parts := congrArg List.length (join_cut data)
  rw [List.length_append] at parts
  by_cases found : newline ∈ data
  · rw [chunkLines_of_mem offset chunkSize found, spans_layLines, heldBack,
      if_neg (fun free => free.1 found)]
    exact parts
  · cases fills : fillsWindow data.length chunkSize with
    | true =>
        rw [chunkLines_of_full offset found fills, heldBack, if_pos ⟨found, fills⟩]
        simp [Line.span, Line.size]
    | false =>
        have nothing := cut_eq_nil_iff.mpr found
        rw [nothing] at parts
        rw [chunkLines_of_short offset found fills, heldBack, fills, if_neg (by simp)]
        simpa [split, ScanOrder.arrange] using parts

/-- Taking in a chunk, in words. -/
def absorb? (c : Cursor) (chunk : Chunk) : Option Cursor := do
  let pieces ← split? chunk.data c.offset .forward
  let lines :=
    if pieces.lines.isEmpty && fillsWindow chunk.data.length c.config.chunkSize then
      [⟨chunk.data, c.offset, false⟩]
    else pieces.lines
  let consumed ← Line.spans? lines
  let offset ← Word.add? c.offset consumed
  some { c with offset, buffer := c.buffer ++ lines }

/-- A chunk within the words is taken in within the words. -/
theorem absorb?_eq {c : Cursor} {chunk : Chunk} (fits : c.offset + chunk.data.length < 2 ^ 64) :
    c.absorb? chunk = some (c.absorb chunk) := by
  have whole := spans_chunkLines_add_heldBack chunk.data c.offset c.config.chunkSize
  have consumed := Line.spans?_eq
    (show Line.spans (chunkLines chunk.data c.offset c.config.chunkSize) < 2 ^ 64 by omega)
  rw [absorb?, split?_eq fits]
  simp only [Option.bind_eq_bind, Option.bind_some]
  change (Line.spans? (chunkLines chunk.data c.offset c.config.chunkSize)).bind _ = _
  rw [consumed, Option.bind_some, Word.add?_eq (by omega)]
  rfl

/-- Whether the next pull has to read: no limit is in its way, and nothing is left in the buffer. -/
def Asks (c : Cursor) : Prop :=
  (c.config.stream = true ∨ c.emitted < c.config.maxLines) ∧ c.buffer = []

/-- The read that a pull makes if it has to. -/
def request (c : Cursor) : Request :=
  ⟨c.file, .bytes c.offset c.config.chunkSize⟩

theorem limitReached_eq_false_iff {c : Cursor} :
    c.limitReached = false ↔ c.config.stream = true ∨ c.emitted < c.config.maxLines := by
  cases stream : c.config.stream <;> simp [limitReached, stream]

/-! ## One pull -/

/-- All that a pull can do with an endpoint: what becomes of the cursor, what the pull gives, and the
exchanges that it makes. -/
inductive Consults (cancellation : Cancellation) (c : Cursor) :
    (next : Cursor) → (given : Option Pulled) → List Exchange → Prop where
  /-- The pull is given up before it begins. -/
  | declined (unwilling : cancellation = .before) :
      Consults cancellation c c cancellation.unfinished []
  /-- The pull need not read. -/
  | spared {next : Cursor} {given : Option Pulled} (spare : ¬ c.Asks)
      (offset_eq : next.offset = c.offset) (rest : next.buffer <:+ c.buffer) :
      Consults cancellation c next given []
  /-- The read is outstanding. -/
  | unanswered (willing : cancellation ≠ .before) (asks : c.Asks) :
      Consults cancellation c c cancellation.unfinished [⟨c.request, none⟩]
  /-- The read fails. -/
  | failed (willing : cancellation ≠ .before) (asks : c.Asks) (error : FetchError) :
      Consults cancellation c c (some (.error (.fetch error)))
        [⟨c.request, some (.error error)⟩]
  /-- The read succeeds. -/
  | answered (willing : cancellation ≠ .before) (asks : c.Asks) (chunk : Chunk) :
      Consults cancellation c (c.absorb chunk).dequeue.2
        (some ((c.written (.ok (c.absorb chunk).dequeue.1)))) [⟨c.request, some (.ok chunk)⟩]

variable {endpoint : Endpoint (StateM σ)} {c next : Cursor} {cancellation : Cancellation}
  {given : Option Pulled} {exchanges record : List Exchange}

/-- What is taken in on an empty buffer is the lines of the chunk. -/
theorem absorb_buffer_of_unread (unread : c.buffer = []) (chunk : Chunk) :
    (c.absorb chunk).buffer = chunkLines chunk.data c.offset c.config.chunkSize := by
  rw [absorb, unread, List.nil_append]

theorem dequeue_buffer_suffix (c : Cursor) : c.dequeue.2.buffer <:+ c.buffer :=
  ⟨_, c.lines_dequeue_append⟩

namespace Consults

theorem length_le_one (consults : Consults cancellation c next given exchanges) :
    exchanges.length ≤ 1 := by
  cases consults <;> simp

theorem ne_nil_iff (consults : Consults cancellation c next given exchanges) :
    exchanges ≠ [] ↔ cancellation ≠ .before ∧ c.Asks := by
  cases consults with
  | declined unwilling => simp [unwilling]
  | spared spare => simp [spare]
  | unanswered willing asks => simp [willing, asks]
  | failed willing asks => simp [willing, asks]
  | answered willing asks => simp [willing, asks]

theorem offset_eq (consults : Consults cancellation c next given []) :
    next.offset = c.offset := by
  cases consults with
  | declined => rfl
  | spared _ offset_eq => exact offset_eq

theorem offset_le (consults : Consults cancellation c next given exchanges) :
    c.offset ≤ next.offset := by
  cases consults with
  | declined => exact Nat.le_refl _
  | spared _ offset_eq => exact Nat.le_of_eq offset_eq.symm
  | unanswered => exact Nat.le_refl _
  | failed => exact Nat.le_refl _
  | answered willing asks chunk =>
      rw [dequeue_offset]
      exact Nat.le_add_right ..

theorem request_eq (consults : Consults cancellation c next given exchanges) :
    ∀ exchange ∈ exchanges, exchange.request = c.request := by
  cases consults <;> simp

/-- A read that succeeds takes the cursor over all of the chunk that is not held back. -/
theorem offset_add_heldBack {request : Request} {chunk : Chunk}
    (consults : Consults cancellation c next given [⟨request, some (.ok chunk)⟩]) :
    next.offset + heldBack chunk.data c.config.chunkSize = c.offset + chunk.data.length := by
  cases consults with
  | answered =>
      rw [dequeue_offset, absorb, Nat.add_assoc, spans_chunkLines_add_heldBack]

/-- A pull whose read succeeds finds nothing just if the chunk has no terminator and is shorter than
a window, and then it changes nothing. -/
theorem nothing_iff {request : Request} {chunk : Chunk}
    (consults : Consults cancellation c next given [⟨request, some (.ok chunk)⟩]) :
    (given = some (.ok none) ↔
        newline ∉ chunk.data ∧ fillsWindow chunk.data.length c.config.chunkSize = false) ∧
      (given = some (.ok none) → next = c) := by
  cases consults with
  | answered willing asks chunk =>
      have buffer_eq := absorb_buffer_of_unread asks.2 chunk
      have nothing : some (c.written (.ok (c.absorb chunk).dequeue.1)) = some (.ok none) ↔
          chunkLines chunk.data c.offset c.config.chunkSize = [] := by
        rw [Option.some.injEq, written_eq_ok_none_iff, Except.ok.injEq, dequeue_eq_none_iff,
          buffer_eq]
      rw [nothing]
      refine ⟨chunkLines_eq_nil_iff, ?_⟩
      intro empty
      rw [dequeue_of_buffer_nil (buffer_eq.trans empty), absorb, empty, List.append_nil,
        Line.spans_nil, Nat.add_zero]

/-- What is in the buffer comes from the last read that has succeeded. -/
theorem buffer_suffix (consults : Consults cancellation c next given exchanges)
    (before : c.buffer <:+ Exchange.latestLines record) :
    next.buffer <:+ Exchange.latestLines (record ++ exchanges) := by
  cases consults with
  | declined =>
      rw [List.append_nil]
      exact before
  | spared _ _ rest =>
      rw [List.append_nil]
      exact rest.trans before
  | unanswered =>
      rw [Exchange.latestLines_concat_of_none rfl]
      exact before
  | failed =>
      rw [Exchange.latestLines_concat_of_none rfl]
      exact before
  | answered willing asks chunk =>
      have lines_eq : Exchange.lines? ⟨c.request, some (.ok chunk)⟩ =
          some (c.absorb chunk).buffer := by
        rw [absorb_buffer_of_unread asks.2]
        rfl
      rw [Exchange.latestLines_concat_of_some lines_eq]
      exact dequeue_buffer_suffix _

end Consults

/-- A pull that need not read finds the same in every world and leaves the world alone. -/
theorem takeLine_of_not_asks (spare : ¬ c.Asks) :
    ∃ found next, next.offset = c.offset ∧ next.buffer <:+ c.buffer ∧
      ∀ {σ : Type} (endpoint : Endpoint (StateM σ)) (world : σ),
        (c.takeLine endpoint).run world = (some (.ok found, next), world) := by
  cases limited : c.limitReached with
  | true =>
      exact ⟨none, c, rfl, List.suffix_refl _, fun _ => takeLine_run_of_limitReached limited⟩
  | false =>
      have stored : c.buffer ≠ [] := fun unread =>
        spare ⟨limitReached_eq_false_iff.mp limited, unread⟩
      exact ⟨c.dequeue.1, c.dequeue.2, c.dequeue_offset, c.dequeue_buffer_suffix,
        fun _ => takeLine_run_of_buffer_ne_nil limited stored⟩

/-- A pull that has to read makes its read and settles the reply. -/
theorem takeLine_of_asks (asks : c.Asks) (endpoint : Endpoint (StateM σ)) (world : σ) :
    (c.takeLine endpoint).run world =
      (((endpoint.read c.request).run world).1.map c.settle,
        ((endpoint.read c.request).run world).2) :=
  takeLine_run_of_buffer_nil (limitReached_eq_false_iff.mpr asks.1) asks.2 world

/-- Whether or not its exchange is noted, a pull takes the same. -/
theorem takeLine_noting (c : Cursor) (endpoint : Endpoint (StateM σ)) (world : σ)
    (record : List Exchange) :
    ∃ outcome world' record', (c.takeLine endpoint).run world = (outcome, world') ∧
      (c.takeLine endpoint.noting).run (world, record) = (outcome, world', record') := by
  by_cases asks : c.Asks
  · exact ⟨_, _, _, takeLine_of_asks asks endpoint world,
      takeLine_of_asks asks endpoint.noting (world, record)⟩
  · obtain ⟨found, next, _, _, taken⟩ := takeLine_of_not_asks asks
    exact ⟨_, _, _, taken endpoint world, taken endpoint.noting (world, record)⟩

end Cursor

/-! ## Courses whose exchanges are noted -/

/-- The event in a world with a record beside it.  Only reads are noted. -/
def Event.beside : Event σ → Event (σ × List Exchange)
  | .change become => .change fun (world, record) => (become world, record)
  | .pull cancellation => .pull cancellation

namespace Reading

open Cursor Simulation

variable {endpoint : Endpoint (StateM σ)}

/-- The reading without the record of its exchanges. -/
def forget (reading : Reading (σ × List Exchange)) : Reading σ where
  cursor := reading.cursor
  world := reading.world.1
  lines := reading.lines

/-- Without its record, a reading whose exchanges are noted goes the way of any other. -/
theorem next_forget (reading : Reading (σ × List Exchange)) (event : Event σ) :
    (reading.next endpoint.noting event.beside).forget = reading.forget.next endpoint event ∧
      reading.given endpoint.noting event.beside = reading.forget.given endpoint event := by
  rcases reading with ⟨c, ⟨world, record⟩, lines⟩
  cases event with
  | change become => exact ⟨rfl, rfl⟩
  | pull cancellation =>
      by_cases willing : cancellation = .before
      · subst willing
        obtain ⟨given_eq, next_eq⟩ := @pull_before _ endpoint ⟨c, world, lines⟩
        obtain ⟨noted_given_eq, noted_next_eq⟩ :=
          @pull_before _ endpoint.noting ⟨c, (world, record), lines⟩
        exact ⟨(congrArg forget noted_next_eq).trans next_eq.symm,
          noted_given_eq.trans given_eq.symm⟩
      obtain ⟨outcome, world', record', taken, noted⟩ := c.takeLine_noting endpoint world record
      cases outcome with
      | none =>
          obtain ⟨given_eq, next_eq⟩ := @pull_of_outstanding _ _ _ _ _ lines _ willing taken
          obtain ⟨noted_given_eq, noted_next_eq⟩ :=
            @pull_of_outstanding _ _ _ _ _ lines _ willing noted
          exact ⟨(congrArg forget noted_next_eq).trans next_eq.symm,
            noted_given_eq.trans given_eq.symm⟩
      | some found =>
          obtain ⟨given_eq, next_eq⟩ := @pull_of_taken _ _ _ _ _ _ lines _ _ willing taken
          obtain ⟨noted_given_eq, noted_next_eq⟩ :=
            @pull_of_taken _ _ _ _ _ _ lines _ _ willing noted
          exact ⟨(congrArg forget noted_next_eq).trans next_eq.symm,
            noted_given_eq.trans given_eq.symm⟩

/-- A course goes the same way whether or not its exchanges are noted. -/
theorem after_forget (events : List (Event σ)) (reading : Reading (σ × List Exchange)) :
    (after endpoint.noting (events.map Event.beside) reading).forget =
        after endpoint events reading.forget ∧
      results endpoint.noting (events.map Event.beside) reading =
        results endpoint events reading.forget := by
  induction events generalizing reading with
  | nil => exact ⟨rfl, rfl⟩
  | cons event events ih =>
      obtain ⟨next_eq, given_eq⟩ := @next_forget _ endpoint reading event
      obtain ⟨after_eq, results_eq⟩ := ih (reading.next endpoint.noting event.beside)
      rw [List.map_cons, after_cons, results_cons, after_eq, results_eq, next_eq, given_eq]
      exact ⟨rfl, rfl⟩

/-- A pull of a reading whose exchanges are noted. -/
theorem exists_consults (reading : Reading (σ × List Exchange)) (cancellation : Cancellation) :
    ∃ given exchanges,
      reading.given endpoint.noting (.pull cancellation) = [given] ∧
        (reading.next endpoint.noting (.pull cancellation)).world.2 =
          reading.world.2 ++ exchanges ∧
        Consults cancellation reading.cursor
          (reading.next endpoint.noting (.pull cancellation)).cursor given exchanges := by
  rcases reading with ⟨c, ⟨world, record⟩, lines⟩
  by_cases willing : cancellation = .before
  · subst willing
    obtain ⟨given_eq, next_eq⟩ := @pull_before _ endpoint.noting ⟨c, (world, record), lines⟩
    rw [given_eq, next_eq]
    exact ⟨_, [], rfl, (List.append_nil _).symm, .declined rfl⟩
  by_cases asks : c.Asks
  · have taken := takeLine_of_asks asks endpoint.noting (world, record)
    rw [Endpoint.noting_read_run] at taken
    rcases answered : (endpoint.read c.request).run world with ⟨_ | _ | chunk, world'⟩ <;>
      rw [answered] at taken
    · obtain ⟨given_eq, next_eq⟩ := @pull_of_outstanding _ _ _ _ _ lines _ willing taken
      rw [given_eq, next_eq]
      exact ⟨_, _, rfl, rfl, .unanswered willing asks⟩
    · obtain ⟨given_eq, next_eq⟩ := @pull_of_taken _ _ _ _ _ _ lines _ _ willing taken
      rw [given_eq, next_eq]
      exact ⟨_, _, rfl, rfl, .failed willing asks _⟩
    · obtain ⟨given_eq, next_eq⟩ := @pull_of_taken _ _ _ _ _ _ lines _ _ willing taken
      rw [given_eq, next_eq]
      exact ⟨_, _, rfl, rfl, .answered willing asks _⟩
  · obtain ⟨found, next, offset_eq, rest, taken⟩ := takeLine_of_not_asks asks
    obtain ⟨given_eq, next_eq⟩ := @pull_of_taken _ _ _ _ _ _ lines _ _ willing
      (taken endpoint.noting (world, record))
    rw [given_eq, next_eq]
    exact ⟨_, [], rfl, (List.append_nil _).symm, .spared asks offset_eq rest⟩

/-- After every course, what is in the buffer comes from the last read that has succeeded. -/
theorem buffer_suffix_latestLines {reading : Reading (σ × List Exchange)}
    (unread : reading.cursor.buffer = []) (events : List (Event σ)) :
    (after endpoint.noting (events.map Event.beside) reading).cursor.buffer <:+
      Exchange.latestLines
        (after endpoint.noting (events.map Event.beside) reading).world.2 := by
  apply after_induction (motive := fun later : Reading (σ × List Exchange) =>
    later.cursor.buffer <:+ Exchange.latestLines later.world.2)
  · rw [unread]
    exact List.nil_suffix
  · intro event member later before
    obtain ⟨event, _, rfl⟩ := List.mem_map.mp member
    cases event with
    | change become => exact before
    | pull cancellation =>
        obtain ⟨_, exchanges, _, record_eq, consults⟩ :=
          @exists_consults _ endpoint later cancellation
        have kept := consults.buffer_suffix before
        rw [← record_eq] at kept
        exact kept

/-- A cursor reads when it has to and no further.  In every course of a cursor that has been started,
its buffer comes from the last read that has succeeded.  Every further pull makes one read at most, and
makes it just if it is not given up beforehand, no limit is in its way and the buffer is empty.  It
asks for the window at the cursor's position, in the file and with the headers that the cursor has been
started with.  The position never goes back; it moves by what a chunk gives, which is all but what is
held back.  A pull whose read succeeds finds nothing just if the chunk has no terminator and does not
fill the window, and then it leaves the cursor as it was. -/
theorem exchanges_of_start {coordinates : TaskCoordinates} {name : String} {formatter : Formatter}
    {config : ReadConfig} {world₀ world : σ} {c : Cursor} {events : List (Event σ)}
    {reading : Reading (σ × List Exchange)}
    (started : (Cursor.start endpoint coordinates name formatter config).run world₀ =
      (some (.ok c), world))
    (course : after endpoint.noting (events.map Event.beside) ⟨c, (world, []), []⟩ = reading) :
    reading.forget = after endpoint events ⟨c, world, []⟩ ∧
      reading.cursor.buffer <:+ Exchange.latestLines reading.world.2 ∧
      ∀ cancellation,
        let next := reading.next endpoint.noting (.pull cancellation)
        ∃ given exchanges,
          reading.given endpoint.noting (.pull cancellation) = [given] ∧
          next.world.2 = reading.world.2 ++ exchanges ∧
          exchanges.length ≤ 1 ∧
          (exchanges ≠ [] ↔ cancellation ≠ .before ∧
            (config.stream = true ∨ reading.cursor.emitted < config.maxLines) ∧
            reading.cursor.buffer = []) ∧
          (∀ exchange ∈ exchanges, exchange.request =
            ⟨⟨coordinates.filePath name, config.headers⟩,
              .bytes reading.cursor.offset config.chunkSize⟩) ∧
          reading.cursor.offset ≤ next.cursor.offset ∧
          (exchanges = [] → next.cursor.offset = reading.cursor.offset) ∧
          ∀ request chunk, exchanges = [⟨request, some (.ok chunk)⟩] →
            next.cursor.offset + heldBack chunk.data config.chunkSize =
                reading.cursor.offset + chunk.data.length ∧
              (given = some (.ok none) ↔ newline ∉ chunk.data ∧
                fillsWindow chunk.data.length config.chunkSize = false) ∧
              (given = some (.ok none) → next.cursor = reading.cursor) ∧
              (reading.cursor.offset + chunk.data.length < 2 ^ 64 →
                reading.cursor.absorb? chunk = some (reading.cursor.absorb chunk)) := by
  obtain ⟨_, offset, rfl, _⟩ := start_cases started
  obtain ⟨file_eq, _, config_eq⟩ := after_setup endpoint.noting (events.map Event.beside)
    ⟨fresh coordinates name formatter config offset, (world, []), []⟩
  have forget_eq := (@after_forget _ endpoint events
    ⟨fresh coordinates name formatter config offset, (world, []), []⟩).1
  have suffix := @buffer_suffix_latestLines _ endpoint
    ⟨fresh coordinates name formatter config offset, (world, []), []⟩ rfl events
  rw [course] at file_eq config_eq forget_eq suffix
  change reading.cursor.config = config at config_eq
  refine ⟨forget_eq, suffix, ?_⟩
  intro cancellation
  obtain ⟨given, exchanges, given_eq, record_eq, consults⟩ :=
    @exists_consults _ endpoint reading cancellation
  have asked := consults.ne_nil_iff
  rw [Asks, config_eq] at asked
  refine ⟨given, exchanges, given_eq, record_eq, consults.length_le_one, asked, ?_,
    consults.offset_le, ?_, ?_⟩
  · intro exchange member
    rw [consults.request_eq exchange member, Cursor.request, file_eq, config_eq]
    rfl
  · rintro rfl
    exact consults.offset_eq
  · rintro request chunk rfl
    rw [← config_eq]
    obtain ⟨nothing, unchanged⟩ := consults.nothing_iff
    exact ⟨consults.offset_add_heldBack, nothing, unchanged, absorb?_eq⟩

/-- A chunk that is longer than the window, comes with another offset and ends in the middle of a
line: two of its three lines can be handed out, and the second is left in the buffer. -/
theorem exchanges_of_start_of_long_chunk :
    let service : Service ReadReply :=
      { source := .script [.chunk [0x61, 0x0A, 0x62, 0x0A, 0x63] (some 77)] }
    let config : ReadConfig := { chunkSize := 2 }
    let coordinates : TaskCoordinates := ⟨"agent", "framework", "executor", "container", none⟩
    let c := fresh coordinates "stdout" OutputFormat.text.formatter config 0
    let next := next serviceEndpoint.noting ⟨c, (service, []), []⟩ (.pull .never)
    next.cursor.buffer = [⟨[0x62], 2, true⟩] ∧
      next.cursor.buffer <:+ Exchange.latestLines next.world.2 ∧
      ∃ exchange, next.world.2 = [exchange] ∧
        exchange.request = ⟨⟨coordinates.filePath "stdout", ∅⟩, .bytes 0 2⟩ ∧
        next.cursor.offset + heldBack [0x61, 0x0A, 0x62, 0x0A, 0x63] 2 = 0 + 5 := by
  intro service config coordinates c next
  have started := @start_run_topToBottom coordinates "stdout" OutputFormat.text.formatter config _
    serviceEndpoint rfl rfl service
  obtain ⟨_, suffix, _⟩ := @exchanges_of_start _ serviceEndpoint _ _ _ _ _ _ c [.pull .never] next
    started rfl
  obtain ⟨_, _, pulls⟩ := @exchanges_of_start _ serviceEndpoint _ _ _ _ _ _ c [] _ started rfl
  obtain ⟨given, exchanges, _, record_eq, _, _, requests, _, _, moves⟩ := pulls .never
  have noted : next.world.2 = [⟨c.request, some (.ok ⟨[0x61, 0x0A, 0x62, 0x0A, 0x63], 77⟩)⟩] := by
    decide +kernel
  obtain rfl := (record_eq.symm.trans noted : [] ++ exchanges = _)
  refine ⟨by decide +kernel, suffix, _, noted, requests _ (List.mem_singleton_self _), ?_⟩
  exact (moves _ _ rfl).1

end Reading

end RemoteTail

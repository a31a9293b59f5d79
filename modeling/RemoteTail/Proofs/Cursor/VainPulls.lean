import RemoteTail.Proofs.Cursor.Course
import RemoteTail.Proofs.Simulation.Steady

/-!
# Pulls in vain

A pull is in vain if its fetch fails, or if it is given up before it is
complete.  Such a pull leaves the cursor as it was.

If the answers of an endpoint depend on the state of its file only (`SteadyFile`),
the reads of a pull in vain leave nothing behind either.  Then a course without
its pulls in vain gives what the other pulls have given, and leaves the same
cursor (`Reading.results_fruitful`).
-/

namespace RemoteTail

namespace Cursor

variable {σ : Type} {endpoint : Endpoint (StateM σ)} {c next : Cursor} {world world' : σ}
  {error : FetchError}

/-- A taking that meets an error is a read that fails. -/
theorem takeLine_error
    (taken : (c.takeLine endpoint).run world = (some (.error error, next), world')) :
    c.limitReached = false ∧ c.buffer = [] ∧
      (c.file.fetch endpoint c.offset c.config.chunkSize).run world =
        (some (.error error), world') ∧
      next = c := by
  rcases takeLine_cases taken with
    ⟨_, finds, _⟩ | ⟨unlimited, unread, reply, answered, finds, rfl⟩ | ⟨_, _, finds, _⟩
  · cases finds
  · cases reply with
    | error met =>
        obtain rfl : error = met := Except.error.inj finds
        exact ⟨unlimited, unread, answered, rfl⟩
    | ok chunk => cases finds
  · cases finds

/-- Only a fetch error is written as one. -/
theorem written_eq_fetch_error_iff {taking : Taking} :
    c.written taking = .error (.fetch error) ↔ taking = .error error := by
  match taking with
  | .error met => simp [written]
  | .ok none => simp [written]
  | .ok (some line) =>
      rcases c.written_line_cases line with ⟨_, refused⟩ | ⟨_, made⟩
      · simp [refused]
      · simp [made]

/-- A pull gives a fetch error just if it makes a read that fails with it, and then leaves the cursor
as it was. -/
theorem pull_run_eq_fetch_error_iff :
    (c.pull endpoint).run world = (some (.error (.fetch error), next), world') ↔
      c.limitReached = false ∧ c.buffer = [] ∧
        (c.file.fetch endpoint c.offset c.config.chunkSize).run world =
          (some (.error error), world') ∧
        next = c := by
  constructor
  · intro pulls
    obtain ⟨taking, taken, written_eq, _⟩ := pull_cases pulls
    obtain rfl := written_eq_fetch_error_iff.mp written_eq.symm
    exact takeLine_error taken
  · rintro ⟨unlimited, unread, failed, rfl⟩
    have taken := @takeLine_run_of_buffer_nil _ _ endpoint unlimited unread world
    rw [failed] at taken
    exact pull_run_of_takeLine taken

/-- A pull that may be told to give up is a pull, or is given up and leaves the cursor as it was. -/
theorem pullUntil_run_cases (c : Cursor) (endpoint : Endpoint (StateM σ))
    (cancellation : Cancellation) (world : σ) :
    (c.pullUntil endpoint cancellation).run world = (c.pull endpoint).run world ∨
      ∃ world', (c.pullUntil endpoint cancellation).run world =
          (some (.error .cancelled, c), world') ∧
        (world' = world ∨ (c.pull endpoint).run world = (none, world')) := by
  cases cancellation with
  | before => exact .inr ⟨world, rfl, .inl rfl⟩
  | never => exact .inl rfl
  | waiting =>
      rcases pulls : (c.pull endpoint).run world with ⟨_ | pulled, world'⟩
      · refine .inr ⟨world', ?_, .inr rfl⟩
        rw [pullUntil_run_waiting, pulls]
        rfl
      · refine .inl ?_
        rw [pullUntil_run_waiting, pulls]
        rfl

end Cursor

/-! ## Files that answer alike -/

/-- An endpoint whose answers depend on the state of its file only: on what the file holds, and on
whether and how it is served for the time being.  A read leaves that state as it is. -/
structure SteadyFile (σ κ : Type) where
  /-- Answers the requests. -/
  endpoint : Endpoint (StateM σ)
  /-- Whether the endpoint serves the file. -/
  Serving : σ → Prop
  /-- The state of the file. -/
  state : σ → κ
  serving_read : ∀ {world : σ}, Serving world → ∀ request,
    Serving ((endpoint.read request).run world).2
  state_read : ∀ {world : σ}, Serving world → ∀ request,
    state ((endpoint.read request).run world).2 = state world
  reply_eq : ∀ {world world' : σ}, Serving world → Serving world' → state world = state world' →
    ∀ request, ((endpoint.read request).run world).1 = ((endpoint.read request).run world').1

namespace SteadyFile

variable {σ κ : Type} (file : SteadyFile σ κ)

/-- Worlds in which the file is in the same state. -/
structure Alike (first second : σ) : Prop where
  serving_first : file.Serving first
  serving_second : file.Serving second
  state_eq : file.state first = file.state second

/-- A change that does to the file what its state alone decides. -/
def Respects (become : σ → σ) : Prop :=
  ∀ first second, file.Alike first second → file.Alike (become first) (become second)

/-- Readings with the same cursor and the same lines, in worlds that are alike. -/
structure Matches (first second : Reading σ) : Prop where
  cursor_eq : first.cursor = second.cursor
  lines_eq : first.lines = second.lines
  alike : file.Alike first.world second.world

variable {file} {first second third : σ}

theorem Alike.refl {world : σ} (serving : file.Serving world) : file.Alike world world where
  serving_first := serving
  serving_second := serving
  state_eq := rfl

theorem Alike.trans (left : file.Alike first second) (right : file.Alike second third) :
    file.Alike first third where
  serving_first := left.serving_first
  serving_second := right.serving_second
  state_eq := left.state_eq.trans right.state_eq

/-- A read leaves the world as it was, as far as the file is concerned. -/
theorem alike_read {world : σ} (serving : file.Serving world) (request : Request) :
    file.Alike ((file.endpoint.read request).run world).2 world where
  serving_first := file.serving_read serving request
  serving_second := serving
  state_eq := file.state_read serving request

theorem Alike.symm (alike : file.Alike first second) : file.Alike second first where
  serving_first := alike.serving_second
  serving_second := alike.serving_first
  state_eq := alike.state_eq.symm

theorem Matches.trans {first second third : Reading σ} (left : file.Matches first second)
    (right : file.Matches second third) : file.Matches first third where
  cursor_eq := left.cursor_eq.trans right.cursor_eq
  lines_eq := left.lines_eq.trans right.lines_eq
  alike := left.alike.trans right.alike

theorem alike_takeLine {world : σ} (serving : file.Serving world) (c : Cursor) :
    file.Alike ((c.takeLine file.endpoint).run world).2 world := by
  cases limited : c.limitReached with
  | true =>
      rw [Cursor.takeLine_run_of_limitReached limited]
      exact .refl serving
  | false =>
      by_cases unread : c.buffer = []
      · rw [Cursor.takeLine_run_of_buffer_nil limited unread]
        exact alike_read serving _
      · rw [Cursor.takeLine_run_of_buffer_ne_nil limited unread]
        exact .refl serving

/-- Worlds that are alike let a cursor take the same. -/
theorem Alike.takeLine_eq (alike : file.Alike first second) (c : Cursor) :
    ((c.takeLine file.endpoint).run first).1 = ((c.takeLine file.endpoint).run second).1 := by
  cases limited : c.limitReached with
  | true =>
      rw [Cursor.takeLine_run_of_limitReached limited,
        Cursor.takeLine_run_of_limitReached limited]
  | false =>
      by_cases unread : c.buffer = []
      · rw [Cursor.takeLine_run_of_buffer_nil limited unread,
          Cursor.takeLine_run_of_buffer_nil limited unread]
        have replies := file.reply_eq alike.serving_first alike.serving_second alike.state_eq
          ⟨c.file, .bytes c.offset c.config.chunkSize⟩
        exact congrArg (Option.map c.settle) replies
      · rw [Cursor.takeLine_run_of_buffer_ne_nil limited unread,
          Cursor.takeLine_run_of_buffer_ne_nil limited unread]

/-! ## Courses in worlds that are alike -/

/-- The same event takes readings that match to readings that match, with the same result. -/
theorem Matches.next {reading reading' : Reading σ} (matching : file.Matches reading reading')
    {event : Event σ} (respects : ∀ become, event = .change become → file.Respects become) :
    reading.given file.endpoint event = reading'.given file.endpoint event ∧
      file.Matches (reading.next file.endpoint event) (reading'.next file.endpoint event) := by
  rcases reading with ⟨c, world, lines⟩
  rcases reading' with ⟨_, world', _⟩
  obtain ⟨rfl, rfl, alike⟩ := matching
  cases event with
  | change become =>
      exact ⟨rfl, rfl, rfl, respects become rfl world world' alike⟩
  | pull cancellation =>
      by_cases willing : cancellation = .before
      · subst willing
        obtain ⟨given_eq, next_eq⟩ := @Reading.pull_before _ file.endpoint ⟨c, world, lines⟩
        obtain ⟨given_eq', next_eq'⟩ := @Reading.pull_before _ file.endpoint ⟨c, world', lines⟩
        rw [given_eq, given_eq', next_eq, next_eq']
        exact ⟨rfl, rfl, rfl, alike⟩
      · have same := alike.takeLine_eq c
        have later := ((alike_takeLine alike.serving_first c).trans alike).trans
          (alike_takeLine alike.serving_second c).symm
        rcases taken : (c.takeLine file.endpoint).run world with ⟨outcome, after⟩
        rcases taken' : (c.takeLine file.endpoint).run world' with ⟨outcome', after'⟩
        rw [taken, taken'] at same later
        obtain rfl : outcome = outcome' := same
        cases outcome with
        | none =>
            obtain ⟨given_eq, next_eq⟩ := @Reading.pull_of_outstanding _ _ _ _ _ lines _ willing taken
            obtain ⟨given_eq', next_eq'⟩ :=
              @Reading.pull_of_outstanding _ _ _ _ _ lines _ willing taken'
            rw [given_eq, given_eq', next_eq, next_eq']
            exact ⟨rfl, rfl, rfl, later⟩
        | some found =>
            obtain ⟨given_eq, next_eq⟩ := @Reading.pull_of_taken _ _ _ _ _ _ lines _ _ willing taken
            obtain ⟨given_eq', next_eq'⟩ :=
              @Reading.pull_of_taken _ _ _ _ _ _ lines _ _ willing taken'
            rw [given_eq, given_eq', next_eq, next_eq']
            exact ⟨rfl, rfl, rfl, later⟩

end SteadyFile

section

open Simulation

/-- A steady service, as an endpoint whose answers depend on the state of its file only. -/
def steadyService : SteadyFile (Service ReadReply) (Source ReadReply × Treatment) where
  endpoint := serviceEndpoint
  Serving := fun service => ∃ file, service.Steady file
  state := fun service => (service.source, service.treatment)
  serving_read := by
    rintro service ⟨file, steady⟩ request
    rw [steady.read]
    exact ⟨file, steady.called request⟩
  state_read := by
    rintro service ⟨file, steady⟩ request
    rw [steady.read]
    rfl
  reply_eq := by
    rintro service service' ⟨file, steady⟩ ⟨file', steady'⟩ same request
    obtain ⟨source_eq, treatment_eq⟩ := Prod.mk.inj same
    rw [steady.source_eq, steady'.source_eq] at source_eq
    obtain rfl : file = file' := Source.memory.inj source_eq
    rw [steady.read, steady'.read, treatment_eq]

/-- Growth does to the file of a steady service what its state decides. -/
theorem respects_append (more : Bytes) : steadyService.Respects (·.changeFile (·.append more)) := by
  rintro service service' ⟨⟨file, steady⟩, ⟨file', steady'⟩, same⟩
  obtain ⟨source_eq, treatment_eq⟩ := Prod.mk.inj same
  rw [steady.source_eq, steady'.source_eq] at source_eq
  obtain rfl : file = file' := Source.memory.inj source_eq
  refine ⟨⟨_, steady.append more⟩, ⟨_, steady'.append more⟩, ?_⟩
  change ((service.changeFile (·.append more)).source,
      (service.changeFile (·.append more)).treatment) =
    ((service'.changeFile (·.append more)).source,
      (service'.changeFile (·.append more)).treatment)
  rw [(steady.append more).source_eq, (steady'.append more).source_eq,
    Service.treatment_changeFile, Service.treatment_changeFile, treatment_eq]

theorem respects_treating (treatment : Treatment) :
    steadyService.Respects (·.treating treatment) := by
  rintro service service' ⟨⟨file, steady⟩, ⟨file', steady'⟩, same⟩
  obtain ⟨source_eq, _⟩ := Prod.mk.inj same
  rw [steady.source_eq, steady'.source_eq] at source_eq
  refine ⟨⟨_, steady.treating treatment⟩, ⟨_, steady'.treating treatment⟩, ?_⟩
  change ((service.treating treatment).source, (service.treating treatment).treatment) =
    ((service'.treating treatment).source, (service'.treating treatment).treatment)
  rw [(steady.treating treatment).source_eq, (steady'.treating treatment).source_eq, source_eq,
    Service.treatment_treating, Service.treatment_treating]

end

namespace Reading

open Simulation

variable {σ κ : Type}

/-- Whether a pull was in vain: its fetch has failed, or it did not come to its end. -/
def inVain : Option Pulled → Bool
  | some (.error (.fetch _)) => true
  | some (.error .cancelled) => true
  | some _ => false
  | none => true

/-- The events of a course without its pulls in vain. -/
def fruitful (endpoint : Endpoint (StateM σ)) : List (Event σ) → Reading σ → List (Event σ)
  | [], _ => []
  | event :: events, reading =>
      if (reading.given endpoint event).any inVain then
        fruitful endpoint events (reading.next endpoint event)
      else event :: fruitful endpoint events (reading.next endpoint event)

/-- What a complete pull gives is in vain just if its taking has met an error. -/
theorem inVain_written {c : Cursor} {taking : Taking} (vain : inVain (some (c.written taking)) = true) :
    ∃ error, taking = .error error := by
  match taking with
  | .error error => exact ⟨error, rfl⟩
  | .ok none => cases vain
  | .ok (some line) =>
      rcases c.written_line_cases line with ⟨_, refused⟩ | ⟨_, made⟩
      · rw [refused] at vain
        cases vain
      · rw [made] at vain
        cases vain

/-- An event gives one result at most, so that one in vain leaves no other. -/
theorem filter_given_of_inVain {endpoint : Endpoint (StateM σ)} {reading : Reading σ}
    {event : Event σ} (vain : (reading.given endpoint event).any inVain = true) :
    (reading.given endpoint event).filter (!inVain ·) = [] := by
  cases event with
  | change become => rfl
  | pull cancellation =>
      rw [given, List.any_cons, List.any_nil, Bool.or_false] at vain
      rw [given, List.filter_cons, vain]
      rfl

/-- A pull in vain leaves the cursor and the lines as they were, and the file too. -/
theorem matches_next_of_inVain {file : SteadyFile σ κ} {reading : Reading σ} {event : Event σ}
    (serving : file.Serving reading.world)
    (vain : (reading.given file.endpoint event).any inVain = true) :
    file.Matches (reading.next file.endpoint event) reading := by
  cases event with
  | change become => cases vain
  | pull cancellation =>
      have alike := SteadyFile.alike_takeLine serving reading.cursor
      rcases pull_cases file.endpoint reading cancellation with
        ⟨taking, cursor, world, taken, given_eq, next_eq⟩ | ⟨world, asked, _, next_eq⟩
      · rw [given_eq, List.any_cons, List.any_nil, Bool.or_false] at vain
        obtain ⟨error, rfl⟩ := inVain_written vain
        obtain ⟨_, _, _, rfl⟩ := Cursor.takeLine_error taken
        rw [taken] at alike
        rw [next_eq]
        exact ⟨rfl, List.append_nil _, alike⟩
      · rw [next_eq]
        rcases asked with rfl | outstanding
        · exact ⟨rfl, rfl, .refl serving⟩
        · rw [outstanding] at alike
          exact ⟨rfl, rfl, alike⟩

/-- Without its pulls in vain, a course gives what its other pulls have given and leaves the same
cursor, also in another world in which the file is in the same state. -/
theorem results_fruitful {file : SteadyFile σ κ} {events : List (Event σ)}
    {reading reading' : Reading σ} (matching : file.Matches reading reading')
    (respects : ∀ become, .change become ∈ events → file.Respects become) :
    results file.endpoint (fruitful file.endpoint events reading) reading' =
        (results file.endpoint events reading).filter (!inVain ·) ∧
      file.Matches (after file.endpoint events reading)
        (after file.endpoint (fruitful file.endpoint events reading) reading') := by
  induction events generalizing reading reading' with
  | nil => exact ⟨rfl, matching⟩
  | cons event events ih =>
      have later : ∀ become, .change become ∈ events → file.Respects become := by
        intro become member
        exact respects become (List.mem_cons_of_mem event member)
      have now : ∀ become, event = .change become → file.Respects become := by
        rintro become rfl
        exact respects become List.mem_cons_self
      obtain ⟨given_eq, next_matching⟩ := matching.next now
      rw [results_cons, after_cons, List.filter_append, fruitful]
      cases vain : (reading.given file.endpoint event).any inVain with
      | true =>
          have unchanged := matches_next_of_inVain matching.alike.serving_first vain
          rw [if_pos rfl, filter_given_of_inVain vain, List.nil_append]
          exact ih (unchanged.trans matching) later
      | false =>
          obtain ⟨results_eq, after_matching⟩ := ih next_matching later
          have all_kept : (reading.given file.endpoint event).filter (!inVain ·) =
              reading.given file.endpoint event := by
            rw [List.filter_eq_self]
            intro result member
            have kept := List.any_eq_false.mp vain result member
            simpa using kept
          rw [if_neg Bool.false_ne_true, results_cons, after_cons, all_kept, results_eq, given_eq]
          exact ⟨rfl, after_matching⟩

/-- Pulls in vain leave no trace.  A pull gives a fetch error just if its fetch fails, and leaves the
cursor as it was.  A pull that may be told to give up is a pull, or is given up and leaves the cursor
as it was.  So if answers depend on the state of the file only, the other pulls of a course and its
last cursor are the same without its pulls in vain. -/
theorem results_without_vain_pulls {file : SteadyFile σ κ} {reading : Reading σ}
    {events : List (Event σ)} (serving : file.Serving reading.world)
    (respects : ∀ become, .change become ∈ events → file.Respects become) :
    (∀ (c next : Cursor) world world' error,
      (c.pull file.endpoint).run world = (some (.error (.fetch error), next), world') ↔
        c.limitReached = false ∧ c.buffer = [] ∧
          (c.file.fetch file.endpoint c.offset c.config.chunkSize).run world =
            (some (.error error), world') ∧
          next = c) ∧
      (∀ (c : Cursor) cancellation world,
        (c.pullUntil file.endpoint cancellation).run world = (c.pull file.endpoint).run world ∨
          ∃ world', (c.pullUntil file.endpoint cancellation).run world =
              (some (.error .cancelled, c), world') ∧
            (world' = world ∨ (c.pull file.endpoint).run world = (none, world'))) ∧
      results file.endpoint (fruitful file.endpoint events reading) reading =
        (results file.endpoint events reading).filter (!inVain ·) ∧
      (after file.endpoint (fruitful file.endpoint events reading) reading).cursor =
        (after file.endpoint events reading).cursor := by
  have matching : file.Matches reading reading := ⟨rfl, rfl, .refl serving⟩
  obtain ⟨results_eq, after_matching⟩ := results_fruitful matching respects
  refine ⟨?_, ?_, results_eq, after_matching.cursor_eq.symm⟩
  · intro c next world world' error
    exact Cursor.pull_run_eq_fetch_error_iff
  · intro c cancellation world
    exact c.pullUntil_run_cases file.endpoint cancellation world

/-- A pull that is refused and one that is given up while it waits, among two that succeed. -/
theorem results_without_vain_pulls_of_service :
    let service : Service ReadReply := { source := .memory { content := #[0x61, 0x0A] } }
    let c := Cursor.fresh ⟨"agent", "framework", "executor", "container", none⟩ "stdout"
      OutputFormat.text.formatter { stream := true, chunkSize := 2 } 0
    let refuse : Event (Service ReadReply) := .change (·.treating (.refused .unavailable))
    let ignore : Event (Service ReadReply) := .change (·.treating .ignored)
    let answer : Event (Service ReadReply) := .change (·.treating .answered)
    let grow : Event (Service ReadReply) := .change (·.changeFile (·.append [0x0A]))
    let events := [refuse, .pull .never, answer, .pull .never, ignore, grow, .pull .waiting, answer,
      .pull .never]
    (fruitful serviceEndpoint events ⟨c, service, []⟩).length = 7 ∧
      results serviceEndpoint (fruitful serviceEndpoint events ⟨c, service, []⟩) ⟨c, service, []⟩ =
        [some (.ok (some [0x61, 0x0A])), some (.ok (some [0x0A]))] := by
  intro service c refuse ignore answer grow events
  have serving : steadyService.Serving service := ⟨_, rfl, rfl, rfl⟩
  have respects : ∀ become, .change become ∈ events → steadyService.Respects become := by
    intro become member
    simp only [events, refuse, ignore, answer, grow, List.mem_cons, Event.change.injEq,
      List.not_mem_nil, reduceCtorEq, or_false, false_or] at member
    rcases member with rfl | rfl | rfl | rfl | rfl
    · exact respects_treating _
    · exact respects_treating _
    · exact respects_treating _
    · exact respects_append _
    · exact respects_treating _
  have without := @results_without_vain_pulls _ _ steadyService ⟨c, service, []⟩ events serving
    respects
  obtain ⟨_, _, results_eq, _⟩ := without
  constructor
  · decide +kernel
  · exact results_eq.trans (by decide +kernel)

end Reading

end RemoteTail

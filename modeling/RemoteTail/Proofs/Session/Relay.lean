import RemoteTail.Proofs.Cursor.Course
import RemoteTail.Proofs.Session.Plan
import RemoteTail.Proofs.Session.Scene

/-!
# What a session prints

A session prints what its cursor yields.  The measure is `Cursor.polls`, the
results of successive pulls with the server alone: the session prints the
blocks among them, up to the first error and, unless the file is followed, up
to the first end of the data, and it ends as that result says (`conclusion`).
If the user interrupts, it ends in good order and has printed the first of
these blocks, each as a whole (`Relays`).

One turn does what the next pull says, or is interrupted (`turn_turned`); a run
is an induction over its turns (`turns_relays`).
-/

namespace RemoteTail

namespace Cursor

variable {σ : Type}

/-- What comes of the world after a result: a pause follows the end of the data. -/
def restAfter (pause : σ → σ) : Pulled → σ → σ
  | .ok none, world => pause world
  | _, world => world

/-- The results of so many pulls, one after another. -/
def polls (endpoint : Endpoint (StateM σ)) (pause : σ → σ) :
    (count : Nat) → Cursor → σ → List Pulled
  | 0, _, _ => []
  | count + 1, c, world =>
    match (c.pull endpoint).run world with
    | (none, _) => []
    | (some (pulled, next), world) =>
      pulled :: polls endpoint pause count next (restAfter pause pulled world)

theorem polls_succ {endpoint : Endpoint (StateM σ)} {pause : σ → σ} {c next : Cursor}
    {world world' : σ} {pulled : Pulled}
    (pulls : (c.pull endpoint).run world = (some (pulled, next), world')) (count : Nat) :
    c.polls endpoint pause (count + 1) world =
      pulled :: next.polls endpoint pause count (restAfter pause pulled world') := by
  rw [polls, pulls]

end Cursor

/-! ## What counts among the results -/

namespace Session

/-- Whether the session goes on after a result. -/
def goesOn (follow : Bool) : Pulled → Bool
  | .ok (some _) => true
  | .ok none => follow
  | .error _ => false

/-- How a session ends with the result that ends it. -/
def closing : Pulled → Ending
  | .ok _ => .ok ()
  | .error error => .error (.cursor error)

/-- The block of a result, if it has one. -/
def block? : Pulled → Option Bytes
  | .ok block => block
  | .error _ => none

/-- The blocks before the result that ends the session. -/
def shown (follow : Bool) (results : List Pulled) : List Bytes :=
  (results.takeWhile (goesOn follow)).filterMap block?

/-- How a session ends with its results, if they end it. -/
def conclusion (follow : Bool) (results : List Pulled) : Option Ending :=
  (results.find? fun pulled => !goesOn follow pulled).map closing

variable {follow : Bool} {pulled : Pulled} {results : List Pulled}

theorem shown_cons_of_goesOn (on : goesOn follow pulled = true) :
    shown follow (pulled :: results) = (block? pulled).toList ++ shown follow results := by
  rw [shown, List.takeWhile_cons_of_pos on, List.filterMap_cons]
  cases block? pulled <;> rfl

theorem shown_cons_of_not_goesOn (ends : goesOn follow pulled = false) :
    shown follow (pulled :: results) = [] := by
  rw [shown, List.takeWhile_cons_of_neg (by simp [ends])]
  rfl

theorem conclusion_cons_of_goesOn (on : goesOn follow pulled = true) :
    conclusion follow (pulled :: results) = conclusion follow results := by
  rw [conclusion, List.find?_cons_of_neg (by simp [on])]
  rfl

theorem conclusion_cons_of_not_goesOn (ends : goesOn follow pulled = false) :
    conclusion follow (pulled :: results) = some (closing pulled) := by
  rw [conclusion, List.find?_cons_of_pos (by simp [ends])]
  rfl

end Session

/-! ## One turn -/

namespace Session

section

variable {σ : Type} {surroundings : Surroundings (StateM σ)} {plan : Plan} {c next : Cursor}
  {world world' : σ}

/-- A turn is over, in good order, if its pull is interrupted. -/
theorem turn_of_interrupted
    (pulls : (c.pull (plan.url.endpoint surroundings.exchange)).run world = (none, world')) :
    (turn surroundings plan c).run world = (.over (.ok ()), world') := by
  rw [turn, StateT.run_bind, Cursor.pullUntil_run_waiting, pulls]
  rfl

theorem turn_of_block {block : Bytes}
    (pulls : (c.pull (plan.url.endpoint surroundings.exchange)).run world =
      (some (.ok (some block), next), world')) :
    (turn surroundings plan c).run world =
      (.next next, ((surroundings.print block).run world').2) := by
  rw [turn, StateT.run_bind, Cursor.pullUntil_run_waiting, pulls]
  rfl

/-- At the end of the data of a followed file, a turn waits. -/
theorem turn_of_end_of_stream
    (pulls : (c.pull (plan.url.endpoint surroundings.exchange)).run world =
      (some (.ok none, next), world'))
    (stream : next.config.stream = true) :
    (turn surroundings plan c).run world =
      ((if ((surroundings.wait plan.pollInterval).run world').1 then .over (.ok ())
        else .next next),
        ((surroundings.wait plan.pollInterval).run world').2) := by
  rw [turn, StateT.run_bind, Cursor.pullUntil_run_waiting, pulls]
  change StateT.run (if next.config.stream = true then _ else _) world' = _
  rw [if_pos stream, StateT.run_bind]
  rcases (surroundings.wait plan.pollInterval).run world' with ⟨_ | _, world''⟩ <;> rfl

theorem turn_of_end
    (pulls : (c.pull (plan.url.endpoint surroundings.exchange)).run world =
      (some (.ok none, next), world'))
    (still : next.config.stream = false) :
    (turn surroundings plan c).run world = (.over (.ok ()), world') := by
  rw [turn, StateT.run_bind, Cursor.pullUntil_run_waiting, pulls]
  change StateT.run (if next.config.stream = true then _ else _) world' = _
  rw [if_neg (by simp [still])]
  rfl

theorem turn_of_fetch_error {fault : FetchError}
    (pulls : (c.pull (plan.url.endpoint surroundings.exchange)).run world =
      (some (.error (.fetch fault), next), world')) :
    (turn surroundings plan c).run world = (.over (.error (.cursor (.fetch fault))), world') := by
  rw [turn, StateT.run_bind, Cursor.pullUntil_run_waiting, pulls]
  rfl

end

/-- Whether a result that is an error is a fetch error. -/
def FailsByFetch (pulled : Pulled) : Prop :=
  ∀ error, pulled = .error error → ∃ fault, error = .fetch fault

/-- What one turn makes of a scene, if a pull with the server alone gives `pulled` and leaves the
cursor `next` and the world `world`. -/
inductive Turned {σ : Type} (pause : σ → σ) (follow : Bool) (scene : Scene σ) (pulled : Pulled)
    (next : Cursor) (world : σ) : Turn → Scene σ → Prop where
  /-- The user interrupts the pull, or the pause after it. -/
  | interrupted {scene' : Scene σ} (brokenOff : scene.BreaksOffAt scene') :
      Turned pause follow scene pulled next world (.over (.ok ())) scene'
  /-- The block is printed, or the pause comes to its end. -/
  | next {scene' : Scene σ} (on : goesOn follow pulled = true)
      (world_eq : scene'.world = Cursor.restAfter pause pulled world)
      (printed_eq : scene'.printed = scene.printed ++ (block? pulled).toList)
      (interrupted_eq : scene'.interrupted = scene.interrupted)
      (patience_eq : scene.patience = none → scene'.patience = none) :
      Turned pause follow scene pulled next world (.next next) scene'
  /-- The result ends the session. -/
  | last {scene' : Scene σ} (ends : goesOn follow pulled = false)
      (leads : scene.LeadsTo scene' world) :
      Turned pause follow scene pulled next world (.over (closing pulled)) scene'

variable {σ : Type} {plan : Plan} {c next : Cursor}

/-- With the server alone, every pull comes to its end, and if the formatter refuses no line, only a
fetch fails. -/
theorem exists_pulled (server : Server σ) (url : Url)
    (writes : ∀ line, ∃ block, c.formatter.line line = .ok block) (world : σ) :
    ∃ pulled next world',
      (c.pull (server.endpoint url)).run world = (some (pulled, next), world') ∧
        FailsByFetch pulled ∧ next.formatter = c.formatter ∧ next.config = c.config := by
  obtain ⟨taking, next, world', taken⟩ : ∃ taking next world',
      (c.takeLine (server.endpoint url)).run world = (some (taking, next), world') := by
    cases limited : c.limitReached with
    | true => exact ⟨_, _, _, Cursor.takeLine_run_of_limitReached limited world⟩
    | false =>
        by_cases unread : c.buffer = []
        · obtain ⟨reply, world', answered⟩ := server.exists_reply url
            ⟨c.file, .bytes c.offset c.config.chunkSize⟩ world
          refine ⟨(c.settle reply).1, (c.settle reply).2, world', ?_⟩
          rw [Cursor.takeLine_run_of_buffer_nil limited unread, RemoteFile.fetch, answered]
          rfl
        · exact ⟨_, _, _, Cursor.takeLine_run_of_buffer_ne_nil limited unread world⟩
  obtain ⟨_, formatter_eq, config_eq⟩ := Cursor.takeLine_setup taken
  refine ⟨_, next, world', Cursor.pull_run_of_takeLine taken, ?_, formatter_eq, config_eq⟩
  intro error failed
  match taking with
  | .error fault =>
      cases failed
      exact ⟨fault, rfl⟩
  | .ok none => cases failed
  | .ok (some line) =>
      obtain ⟨block, written⟩ := writes line
      simp [Cursor.written, written] at failed

/-- In a scene, a wait comes to its end unless the user interrupts. -/
theorem wait_run (server : Server σ) (time : Nat) (scene : Scene σ) :
    ∃ scene',
      (server.surroundings.wait time).run scene = (true, scene') ∧ scene.BreaksOffAt scene' ∨
      (server.surroundings.wait time).run scene = (false, scene') ∧
        scene.LeadsTo scene' (server.pass time scene.world) := by
  have waits : (server.surroundings.wait time).run scene =
      (((Scene.await (modify (server.pass time))).run scene).1.isNone,
        ((Scene.await (modify (server.pass time))).run scene).2) := rfl
  rw [waits]
  obtain ⟨scene', ⟨run_eq, brokenOff⟩ | ⟨run_eq, leads⟩⟩ :=
    Scene.await_agrees (modify (server.pass time)) scene
  · rw [run_eq]
    exact ⟨scene', .inl ⟨rfl, brokenOff⟩⟩
  · rw [run_eq]
    exact ⟨scene', .inr ⟨rfl, leads⟩⟩

/-- One turn does what the next pull says, or it is interrupted. -/
theorem turn_turned (server : Server σ) {scene : Scene σ} {pulled : Pulled} {world : σ}
    (pulls : (c.pull (server.endpoint plan.url)).run scene.world = (some (pulled, next), world))
    (fails : FailsByFetch pulled) :
    ∃ outcome scene', (turn server.surroundings plan c).run scene = (outcome, scene') ∧
      Turned (server.pass plan.pollInterval) next.config.stream scene pulled next world outcome
        scene' := by
  obtain ⟨scene', ⟨run_eq, brokenOff⟩ | ⟨run_eq, leads⟩⟩ :=
    Scene.pull_agrees (Scene.read_agrees server plan.url) c scene
  · exact ⟨_, _, turn_of_interrupted run_eq, .interrupted brokenOff⟩
  · rw [pulls] at run_eq leads
    match pulled with
    | .ok (some block) =>
        refine ⟨_, _, turn_of_block run_eq, ?_⟩
        exact .next rfl leads.world_eq (congrArg (· ++ [block]) leads.printed_eq)
          leads.interrupted_eq leads.patience_eq
    | .ok none =>
        cases stream : next.config.stream with
        | false => exact ⟨_, _, turn_of_end run_eq stream, .last rfl leads⟩
        | true =>
            obtain ⟨scene'', ⟨waits, brokenOff⟩ | ⟨waits, passes⟩⟩ :=
              wait_run server plan.pollInterval scene'
            · refine ⟨_, _, turn_of_end_of_stream run_eq stream, ?_⟩
              rw [waits]
              exact .interrupted (leads.breaksOffAt brokenOff)
            · refine ⟨_, _, turn_of_end_of_stream run_eq stream, ?_⟩
              rw [waits]
              rw [leads.world_eq] at passes
              have both := leads.trans passes
              exact .next rfl both.world_eq (both.printed_eq.trans (List.append_nil _).symm)
                both.interrupted_eq both.patience_eq
    | .error error =>
        obtain ⟨fault, rfl⟩ := fails error rfl
        exact ⟨_, _, turn_of_fetch_error run_eq, .last rfl leads⟩

/-! ## A whole run -/

/-- What a session comes to, given the results of its pulls. -/
structure Relays (follow : Bool) (results : List Pulled) (scene : Scene σ)
    (reached : Option Ending × Scene σ) : Prop where
  /-- Unless the user interrupts, it prints the blocks that count and ends as the results say. -/
  undisturbed : reached.2.interrupted = false →
    reached.1 = conclusion follow results ∧
      reached.2.printed = scene.printed ++ shown follow results
  /-- If the user interrupts, it ends in good order and has printed the first of these blocks. -/
  interrupted : reached.2.interrupted = true →
    reached.1 = some (.ok ()) ∧
      ∃ blocks, blocks <+: shown follow results ∧ reached.2.printed = scene.printed ++ blocks
  /-- Only an impatient user interrupts. -/
  patient : scene.patience = none → reached.2.interrupted = false

/-- A session that is not interrupted relays results if it prints what counts among them and ends as
they say. -/
theorem Relays.of_undisturbed {follow : Bool} {results : List Pulled} {scene scene' : Scene σ}
    (silent : scene'.interrupted = false)
    (printed_eq : scene'.printed = scene.printed ++ shown follow results) :
    Relays follow results scene (conclusion follow results, scene') where
  undisturbed := fun _ => ⟨rfl, printed_eq⟩
  interrupted := by
    intro interrupted
    rw [silent] at interrupted
    cases interrupted
  patient := fun _ => silent

/-- A session that is interrupted at once relays whatever results it would have had. -/
theorem Relays.of_breaksOffAt {scene scene' : Scene σ} (brokenOff : scene.BreaksOffAt scene')
    (follow : Bool) (results : List Pulled) :
    Relays follow results scene (some (.ok ()), scene') where
  undisturbed := by
    intro undisturbed
    rw [brokenOff.interrupted_eq] at undisturbed
    cases undisturbed
  interrupted := by
    intro _
    refine ⟨rfl, [], List.nil_prefix, ?_⟩
    rw [brokenOff.printed_eq, List.append_nil]
  patient := fun patient => absurd patient brokenOff.impatient

theorem Relays.cons {follow : Bool} {pulled : Pulled} {results : List Pulled}
    {scene scene' : Scene σ} {reached : Option Ending × Scene σ}
    (further : Relays follow results scene' reached) (on : goesOn follow pulled = true)
    (printed_eq : scene'.printed = scene.printed ++ (block? pulled).toList)
    (patience_eq : scene.patience = none → scene'.patience = none) :
    Relays follow (pulled :: results) scene reached where
  undisturbed := by
    intro undisturbed
    obtain ⟨ends, printed⟩ := further.undisturbed undisturbed
    rw [conclusion_cons_of_goesOn on, shown_cons_of_goesOn on, ← List.append_assoc, ← printed_eq]
    exact ⟨ends, printed⟩
  interrupted := by
    intro interrupted
    obtain ⟨ends, blocks, first, printed⟩ := further.interrupted interrupted
    refine ⟨ends, (block? pulled).toList ++ blocks, ?_, ?_⟩
    · rw [shown_cons_of_goesOn on]
      exact (List.prefix_append_right_inj _).mpr first
    · rw [printed, printed_eq, List.append_assoc]
  patient := fun patient => further.patient (patience_eq patient)

theorem failsByFetch_of_mem_polls (server : Server σ) (url : Url) (pause : σ → σ)
    (writes : ∀ line, ∃ block, c.formatter.line line = .ok block) (count : Nat) (world : σ) :
    ∀ pulled ∈ c.polls (server.endpoint url) pause count world, FailsByFetch pulled := by
  induction count generalizing c world with
  | zero =>
      intro pulled member
      cases member
  | succ count ih =>
      obtain ⟨first, next, world', pulls, fails, formatter_eq, _⟩ :=
        exists_pulled server url writes world
      rw [Cursor.polls_succ pulls, List.forall_mem_cons]
      exact ⟨fails, ih (fun line => formatter_eq ▸ writes line) _⟩

/-- The turns of a session relay the pulls of its cursor. -/
theorem turns_relays (server : Server σ)
    (writes : ∀ line, ∃ block, c.formatter.line line = .ok block) (limit : Nat) {scene : Scene σ}
    (running : scene.interrupted = false) :
    Relays c.config.stream
      (c.polls (server.endpoint plan.url) (server.pass plan.pollInterval) limit scene.world) scene
      ((turns server.surroundings plan limit c).run scene) := by
  induction limit generalizing c scene with
  | zero =>
      exact .of_undisturbed running (List.append_nil _).symm
  | succ limit ih =>
      obtain ⟨pulled, next, world, pulls, fails, formatter_eq, config_eq⟩ :=
        exists_pulled server plan.url writes scene.world
      obtain ⟨outcome, scene', run_eq, turned⟩ := turn_turned server pulls fails
      rw [config_eq] at turned
      rw [Cursor.polls_succ pulls, turns, StateT.run_bind, run_eq]
      cases turned with
      | interrupted brokenOff =>
          exact .of_breaksOffAt brokenOff _ _
      | next on world_eq printed_eq interrupted_eq patience_eq =>
          change Relays _ _ scene ((turns server.surroundings plan limit next).run scene')
          have further := ih (fun line => formatter_eq ▸ writes line) (interrupted_eq.trans running)
          rw [config_eq, world_eq] at further
          exact further.cons on printed_eq patience_eq
      | last ends leads =>
          change Relays _ _ scene (some (closing pulled), scene')
          rw [← conclusion_cons_of_not_goesOn ends]
          apply Relays.of_undisturbed (leads.interrupted_eq.trans running)
          rw [shown_cons_of_not_goesOn ends, List.append_nil, leads.printed_eq]

end Session

namespace Plan

/-- Where reading begins: at the last lines if these are wanted, or else at the top. -/
def search {m : Type → Type} [Monad m] (plan : Plan) (endpoint : Endpoint m) :
    m (Option (Except FetchError Nat)) :=
  match plan.config.direction with
  | .topToBottom => return some (.ok 0)
  | .bottomToTop =>
    RemoteFile.locateTail ⟨plan.coordinates.filePath plan.file, plan.config.headers⟩ endpoint
      plan.config.maxLines plan.config.chunkSize 0

/-- The cursor that reads as planned from an offset on. -/
def cursorAt (plan : Plan) (offset : Nat) : Cursor :=
  Cursor.fresh plan.coordinates plan.file plan.format.formatter plan.config offset

variable {σ : Type} {plan : Plan}

theorem search_agrees (server : Server σ) (plan : Plan) :
    Scene.Agrees (plan.search (plan.url.endpoint server.surroundings.exchange))
      (plan.search (server.endpoint plan.url)) := by
  unfold search
  cases plan.config.direction with
  | topToBottom => exact Scene.agrees_pure _
  | bottomToTop => exact Scene.locateTail_agrees (Scene.read_agrees server plan.url) _ _ _ 0

/-- A session begins with the search, if its plan passes the checks. -/
theorem begin_run
    (checks : Cursor.checked plan.coordinates plan.file plan.config = .ok ())
    (surroundings : Surroundings (StateM σ)) (world : σ) :
    (Session.begin surroundings plan).run world =
      match (plan.search (plan.url.endpoint surroundings.exchange)).run world with
      | (none, world) => (none, world)
      | (some (.error error), world) => (some (.error (.fetch error)), world)
      | (some (.ok offset), world) => (some (.ok (plan.cursorAt offset)), world) := by
  unfold Session.begin search
  cases direction : plan.config.direction with
  | topToBottom =>
      rw [Cursor.start_run_topToBottom checks direction]
      rfl
  | bottomToTop =>
      rw [Cursor.start_run_bottomToTop checks direction]
      rfl

end Plan

namespace Session

variable {σ : Type}

/-- With a plan that passes the checks, a session searches for the beginning and then takes its
turns. -/
theorem run_of_plan {line : CommandLine} {settings : Settings} {plan : Plan}
    (made : Plan.make line settings = .ok plan)
    (checks : Cursor.checked plan.coordinates plan.file plan.config = .ok ())
    (surroundings : Surroundings (StateM σ)) (limit : Nat) (world : σ) :
    (run surroundings line settings limit).run world =
      match (plan.search (plan.url.endpoint surroundings.exchange)).run world with
      | (none, world) => (none, world)
      | (some (.error error), world) => (some (.error (.cursor (.fetch error))), world)
      | (some (.ok offset), world) =>
          (turns surroundings plan limit (plan.cursorAt offset)).run world := by
  rw [run, made]
  simp only [StateT.run_bind]
  rw [Plan.begin_run checks]
  rcases (plan.search (plan.url.endpoint surroundings.exchange)).run world with
    ⟨_ | _ | _, _⟩ <;> rfl

/-- A server that gives one body after another, each with success, and then nothing. -/
def repliesInTurn : Server (List Bytes) where
  exchange := fun _ => do
    match ← get with
    | [] => return .answered .success (some (Chunk.encode ⟨[], 0⟩))
    | body :: bodies =>
      set bodies
      return .answered .success (some body)
  pass := fun _ => id

/-- Settings that name an endpoint on secured connections. -/
def securedSettings : Settings where
  endpoint := "https://agent:5051/files/read"

/-- The plan of a command line with coordinates alone, by these settings. -/
def securedPlan : Plan where
  url := .http
    { scheme := .https, user := "", password := none, host := .name "agent", port := some 5051
      path := "/files/read", query := none, fragment := none }
  coordinates := ⟨"a", "f", "e", "c", none⟩
  file := "stdout"
  format := .text
  config := {}
  pollInterval := 500

end Session

end RemoteTail

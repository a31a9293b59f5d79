import Mathlib.Logic.Relation
import RemoteTail.Proofs.Simulation.Plain

/-!
# Reading without a gap

A reading is a cursor in a world, together with the lines that it has handed out.
It takes a step when the file grows, when a pull completes, whatever comes of
its read, and when a pull is abandoned.  `Reading.Accounts` is what every step
keeps: the lines handed out and those in the buffer account for every octet from
where the reading began up to the position of the next read, each of them once
and in order.
-/

namespace RemoteTail

open Simulation

namespace Cursor

variable {σ : Type}

/-- The line that a pull takes which may be told to give up. -/
def linesTakenUntil (c : Cursor) (endpoint : Endpoint (StateM σ)) (world : σ) :
    Cancellation → List Line
  | .before => []
  | .waiting => c.linesTaken endpoint world
  | .never => c.linesTaken endpoint world

/-- Either a pull that may be told to give up is a completed pull, or it is abandoned and leaves the
cursor as it was, in a world where at most its read has been asked for. -/
theorem pullUntil_cases {c next : Cursor} {endpoint : Endpoint (StateM σ)} {world world' : σ}
    {cancellation : Cancellation} {pulled : Pulled}
    (pulls : (c.pullUntil endpoint cancellation).run world = (some (pulled, next), world')) :
    ((c.pull endpoint).run world = (some (pulled, next), world') ∧
        c.linesTakenUntil endpoint world cancellation = c.linesTaken endpoint world) ∨
      (pulled = .error .cancelled ∧ next = c ∧
        c.linesTakenUntil endpoint world cancellation = [] ∧
        (world' = world ∨ (c.pull endpoint).run world = (none, world'))) := by
  cases cancellation with
  | before =>
      cases pulls
      exact .inr ⟨rfl, rfl, rfl, .inl rfl⟩
  | never => exact .inl ⟨pulls, rfl⟩
  | waiting =>
      have run : (c.pullUntil endpoint .waiting).run world =
          (some (((c.pull endpoint).run world).1.getD (.error .cancelled, c)),
            ((c.pull endpoint).run world).2) := rfl
      rw [run] at pulls
      rcases completed : (c.pull endpoint).run world with ⟨_ | ⟨pulled', next'⟩, after⟩
      · rw [completed] at pulls
        cases pulls
        refine .inr ⟨rfl, rfl, ?_, .inr rfl⟩
        apply linesTaken_of_pull_none
        rw [completed]
      · rw [completed] at pulls
        cases pulls
        exact .inl ⟨rfl, rfl⟩

end Cursor

/-- A cursor in a world, with the lines that it has handed out. -/
structure Reading (σ : Type) where
  /-- The cursor. -/
  cursor : Cursor
  /-- The world. -/
  world : σ
  /-- The lines handed out so far, the first one first. -/
  lines : List Line

namespace Reading

variable {σ : Type} {file : GrowingFile σ}

/-- The lines that have been read, handed out or not. -/
def known (reading : Reading σ) : List Line :=
  reading.lines ++ reading.cursor.buffer

/-- One step of a reading. -/
inductive Step (file : GrowingFile σ) : Reading σ → Reading σ → Prop where
  /-- The file grows. -/
  | grow {c : Cursor} {world world' : σ} {lines : List Line}
      (advances : file.Advances world world') :
      Step file ⟨c, world, lines⟩ ⟨c, world', lines⟩
  /-- A pull completes, with a block, with an error or with nothing. -/
  | pull {c next : Cursor} {world world' : σ} {lines : List Line} {pulled : Pulled}
      (pulls : (c.pull file.endpoint).run world = (some (pulled, next), world')) :
      Step file ⟨c, world, lines⟩ ⟨next, world', lines ++ c.linesTaken file.endpoint world⟩
  /-- A pull completes or is abandoned. -/
  | pullUntil {c next : Cursor} {world world' : σ} {lines : List Line} {pulled : Pulled}
      (cancellation : Cursor.Cancellation)
      (pulls : (c.pullUntil file.endpoint cancellation).run world = (some (pulled, next), world')) :
      Step file ⟨c, world, lines⟩
        ⟨next, world', lines ++ c.linesTakenUntil file.endpoint world cancellation⟩

/-- The lines handed out and the buffered ones are what the file holds from `start` on. -/
structure Accounts (file : GrowingFile σ) (start : Nat) (reading : Reading σ) : Prop where
  serving : file.Serving reading.world
  inside : start ≤ (file.content reading.world).length
  tracks : reading.cursor.Tracks (file.content reading.world) start reading.lines

namespace Accounts

variable {start : Nat} {reading reading' : Reading σ} {c next : Cursor} {world world' : σ}
  {lines lines' : List Line} {pulled : Pulled}

theorem of_advances (accounts : Accounts file start ⟨c, world, lines⟩)
    (advances : file.Advances world world')
    (tracks : next.Tracks (file.content world') start lines') :
    Accounts file start ⟨next, world', lines'⟩ where
  serving := advances.serving
  inside := Nat.le_trans accounts.inside advances.grows.length_le
  tracks := tracks

theorem grow (accounts : Accounts file start ⟨c, world, lines⟩)
    (advances : file.Advances world world') : Accounts file start ⟨c, world', lines⟩ :=
  accounts.of_advances advances (accounts.tracks.grow advances.grows)

theorem pull (accounts : Accounts file start ⟨c, world, lines⟩)
    (pulls : (c.pull file.endpoint).run world = (some (pulled, next), world')) :
    Accounts file start ⟨next, world', lines ++ c.linesTaken file.endpoint world⟩ := by
  obtain ⟨taking, taken, _, lines_eq⟩ := Cursor.pull_cases pulls
  have advances := GrowingFile.takeLine_advances accounts.serving c
  rw [taken] at advances
  rw [lines_eq]
  exact accounts.of_advances advances
    (GrowingFile.takeLine_tracks accounts.serving accounts.tracks taken)

theorem abandon (accounts : Accounts file start ⟨c, world, lines⟩)
    (outstanding : (c.pull file.endpoint).run world = (none, world')) :
    Accounts file start ⟨c, world', lines⟩ := by
  have advances := GrowingFile.pull_advances accounts.serving c
  rw [outstanding] at advances
  exact accounts.grow advances

theorem step (accounts : Accounts file start reading) (step : Step file reading reading') :
    Accounts file start reading' := by
  cases step with
  | grow advances => exact accounts.grow advances
  | pull pulls => exact accounts.pull pulls
  | pullUntil cancellation pulls =>
      rcases Cursor.pullUntil_cases pulls with ⟨completed, lines_eq⟩ | ⟨_, rfl, lines_eq, rest⟩
      · rw [lines_eq]
        exact accounts.pull completed
      · rw [lines_eq, List.append_nil]
        rcases rest with rfl | outstanding
        · exact accounts
        · exact accounts.abandon outstanding

theorem run (accounts : Accounts file start reading)
    (steps : Relation.ReflTransGen (Step file) reading reading') :
    Accounts file start reading' := by
  induction steps with
  | refl => exact accounts
  | tail _ step ih => exact ih.step step

theorem of_start {coordinates : TaskCoordinates} {name : String} {formatter : Formatter}
    {config : ReadConfig} (serving : file.Serving world)
    (started : (Cursor.start file.endpoint coordinates name formatter config).run world =
      (some (.ok c), world')) : Accounts file c.offset ⟨c, world', []⟩ := by
  obtain ⟨advances, inside, tracks⟩ := GrowingFile.start_advances serving started
  exact ⟨advances.serving, inside, tracks⟩

end Accounts

/-- No octet is lost, repeated or reordered: after any steps of a cursor that has been started on a
file that only grows, the known lines are what the file holds from the offset of the start up to the
position of the next read, and each of them stands where it says. -/
theorem known_lines_of_start {coordinates : TaskCoordinates} {name : String}
    {formatter : Formatter} {config : ReadConfig} {world₀ world : σ} {c : Cursor}
    {reading : Reading σ} (serving : file.Serving world₀)
    (started : (Cursor.start file.endpoint coordinates name formatter config).run world₀ =
      (some (.ok c), world))
    (steps : Relation.ReflTransGen (Step file) ⟨c, world, []⟩ reading) :
    c.offset ≤ reading.cursor.offset ∧
      reading.cursor.offset ≤ (file.content reading.world).length ∧
      reading.known.flatMap Line.bytes =
        (file.content reading.world).slice c.offset reading.cursor.offset ∧
      (∀ line ∈ reading.known,
        (file.content reading.world).slice line.offset (line.offset + line.span) = line.bytes) ∧
      (∀ line ∈ reading.known.head?, line.offset = c.offset) ∧
      reading.known.IsChain (fun previous next => next.offset = previous.offset + previous.span) ∧
      reading.cursor.emitted = reading.lines.countP (·.terminated) := by
  have accounts := (Accounts.of_start serving started).run steps
  have laid := accounts.tracks.laid
  refine ⟨laid.start_le_stop, laid.stop_le_length accounts.inside, laid.flatMap_bytes, ?_,
    laid.head?_offset, laid.isChain, accounts.tracks.emitted_eq⟩
  intro line member
  exact (laid.liesIn member).slice_eq

/-- A pull, growth of the file, an abandoned pull and another pull. -/
theorem known_lines_of_start_plain :
    ∃ (c : Cursor) (reading : Reading (Service ReadReply)),
      Relation.ReflTransGen (Step plainService)
          ⟨c, { source := .memory { content := #[97, 10, 98] } }, []⟩ reading ∧
        reading.cursor.offset = 4 ∧
        reading.known.flatMap Line.bytes = (plainService.content reading.world).slice 0 4 := by
  let file : MemoryFile := { content := #[97, 10, 98] }
  let service : Service ReadReply := { source := .memory file }
  let config : ReadConfig := { stream := true, chunkSize := 2 }
  let coordinates : TaskCoordinates := ⟨"agent", "framework", "executor", "container", none⟩
  let c := Cursor.fresh coordinates "stdout" OutputFormat.text.formatter config 0
  let next : Cursor := { c with offset := 2, emitted := 1 }
  let last : Cursor := { c with offset := 4, emitted := 2 }
  let pulled := service.answered ⟨c.file, .bytes 0 2⟩ file
  let grown := pulled.changeFile (·.append [10])
  let done := grown.answered ⟨c.file, .bytes 2 2⟩ (file.append [10])
  have first := @Step.pull _ plainService c next service pulled [] (.ok (some [97, 10])) rfl
  have second := @Step.grow _ plainService next pulled grown
    ([] ++ c.linesTaken serviceEndpoint service) ⟨⟨_, rfl, rfl⟩, by decide⟩
  have third := @Step.pullUntil _ plainService next next grown grown
    ([] ++ c.linesTaken serviceEndpoint service) (.error .cancelled) .before rfl
  have fourth := @Step.pull _ plainService next last grown done
    ([] ++ c.linesTaken serviceEndpoint service ++ []) (.ok (some [98, 10])) rfl
  have steps := (((Relation.ReflTransGen.single first).tail second).tail third).tail fourth
  have started := @Cursor.start_run_topToBottom coordinates "stdout" OutputFormat.text.formatter
    config _ serviceEndpoint rfl rfl service
  have known := @known_lines_of_start _ plainService _ _ _ _ _ _ _ _ ⟨_, rfl, rfl⟩ started steps
  exact ⟨c, _, steps, rfl, known.2.2.1⟩

end Reading

end RemoteTail

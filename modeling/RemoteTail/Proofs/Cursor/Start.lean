import RemoteTail.Proofs.Tail.Search
import RemoteTail.Cursor

/-!
# Starting a cursor

What a start does in a world.  Its checks come first and make no read; a cursor
that reads from the top is then ready, and one that reads from the bottom is
ready once the search for the tail has been answered.
-/

namespace RemoteTail

namespace Cursor

/-- The checks of a start, in the order in which they are made. -/
def checked (coordinates : TaskCoordinates) (file : String) (config : ReadConfig) :
    Except Error Unit := do
  coordinates.validate
  if file.isEmpty then .error (.emptyCoordinate "file") else config.validate

/-- A cursor on a file of the sandbox that has read nothing yet. -/
def fresh (coordinates : TaskCoordinates) (file : String) (formatter : Formatter)
    (config : ReadConfig) (offset : Nat) : Cursor where
  file := ⟨coordinates.filePath file, config.headers⟩
  formatter := formatter
  config := config
  offset := offset

variable {coordinates : TaskCoordinates} {file : String} {formatter : Formatter}
  {config : ReadConfig} {σ : Type} {endpoint : Endpoint (StateM σ)}

theorem validate_of_checked (sound : checked coordinates file config = .ok ()) :
    config.validate = .ok () := by
  unfold checked at sound
  cases coordinates_sound : coordinates.validate with
  | error error =>
      rw [coordinates_sound] at sound
      cases sound
  | ok _ =>
      rw [coordinates_sound] at sound
      by_cases unnamed : file.isEmpty = true
      · simp [unnamed, bind, Except.bind] at sound
      · simpa [unnamed, bind, Except.bind] using sound

theorem positive_of_validate (sound : config.validate = .ok ()) :
    0 < config.maxLines ∧ 0 < config.chunkSize := by
  unfold ReadConfig.validate at sound
  by_cases no_lines : config.maxLines = 0
  · simp [no_lines] at sound
  · by_cases no_window : config.chunkSize = 0
    · simp [no_lines, no_window] at sound
    · exact ⟨Nat.pos_of_ne_zero no_lines, Nat.pos_of_ne_zero no_window⟩

/-- From the top, a start that passes its checks makes no read. -/
theorem start_run_topToBottom (sound : checked coordinates file config = .ok ())
    (fromTop : config.direction = .topToBottom) (world : σ) :
    (start endpoint coordinates file formatter config).run world =
      (some (.ok (fresh coordinates file formatter config 0)), world) := by
  unfold checked at sound
  unfold start
  simp only [sound, fromTop]
  rfl

/-- From the bottom, a start that passes its checks begins where the search says. -/
theorem start_run_bottomToTop (sound : checked coordinates file config = .ok ())
    (fromBottom : config.direction = .bottomToTop) (world : σ) :
    (start endpoint coordinates file formatter config).run world =
      match (RemoteFile.locateTail ⟨coordinates.filePath file, config.headers⟩ endpoint
          config.maxLines config.chunkSize 0).run world with
      | (none, world) => (none, world)
      | (some (.error error), world) => (some (.error (.fetch error)), world)
      | (some (.ok offset), world) =>
          (some (.ok (fresh coordinates file formatter config offset)), world) := by
  unfold checked at sound
  unfold start
  simp only [sound, fromBottom]
  rw [StateT.run_bind]
  rcases (RemoteFile.locateTail ⟨coordinates.filePath file, config.headers⟩ endpoint
    config.maxLines config.chunkSize 0).run world with ⟨_ | _ | _, _⟩ <;> rfl

theorem start_run_unsound {error : Error} (unsound : checked coordinates file config = .error error)
    (world : σ) :
    (start endpoint coordinates file formatter config).run world =
      (some (.error error), world) := by
  unfold checked at unsound
  unfold start
  simp only [unsound]
  rfl

/-- A cursor that has been started has read nothing, and begins at the top or at the tail. -/
theorem start_cases {world world' : σ} {c : Cursor}
    (started : (start endpoint coordinates file formatter config).run world =
      (some (.ok c), world')) :
    checked coordinates file config = .ok () ∧
      ∃ offset, c = fresh coordinates file formatter config offset ∧
        (offset = 0 ∧ world' = world ∨
          (RemoteFile.locateTail ⟨coordinates.filePath file, config.headers⟩ endpoint
            config.maxLines config.chunkSize 0).run world = (some (.ok offset), world')) := by
  cases sound : checked coordinates file config with
  | error error =>
      rw [start_run_unsound sound] at started
      cases started
  | ok _ =>
      refine ⟨rfl, ?_⟩
      cases direction : config.direction with
      | topToBottom =>
          rw [start_run_topToBottom sound direction] at started
          cases started
          exact ⟨0, rfl, .inl ⟨rfl, rfl⟩⟩
      | bottomToTop =>
          rw [start_run_bottomToTop sound direction] at started
          rcases located : (RemoteFile.locateTail ⟨coordinates.filePath file, config.headers⟩
            endpoint config.maxLines config.chunkSize 0).run world with ⟨_ | _ | offset, after⟩
          · rw [located] at started
            cases started
          · rw [located] at started
            cases started
          · rw [located] at started
            cases started
            exact ⟨offset, rfl, .inr rfl⟩

end Cursor

end RemoteTail

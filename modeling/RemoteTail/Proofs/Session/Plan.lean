import RemoteTail.Proofs.Cursor.Start
import RemoteTail.Proofs.Remote.Headers
import RemoteTail.Session

/-!
# Plans of sessions

What a command line and the settings ask for is checked in two places: the
endpoint and the headers when the plan is made, and the rest when the cursor is
started.  `Plan.Sound` says of the inputs alone that both will pass
(`sound_iff`).

If they are not sound, a session ends with an error and has no effect, whatever
its surroundings are (`run_of_not_sound`).
-/

namespace RemoteTail

/-! ## Headers -/

namespace Header

/-- Whether a pair of texts gives a header. -/
def IsValid (pair : String × String) : Prop :=
  isName (Blank.trim pair.1) = true ∧ isValue (Blank.trim pair.2) = true

theorem isValid_iff {pair : String × String} : IsValid pair ↔ IsHeader pair :=
  ⟨fun ⟨name, value⟩ => ⟨isName_iff.mp name, isValue_iff.mp value⟩,
    fun ⟨name, value⟩ => ⟨isName_iff.mpr name, isValue_iff.mpr value⟩⟩

/-- A list of pairs gives headers if every pair gives one. -/
theorem ofPairs_eq_ok_iff (pairs : List (String × String)) :
    (∃ headers, ofPairs pairs = .ok headers) ↔ ∀ pair ∈ pairs, IsValid pair := by
  simp only [ofPairs_eq_ok_iff_insertAll, exists_and_left, exists_eq, and_true, isValid_iff]

end Header

/-! ## Sound inputs -/

namespace Plan

/-- Whether a session can be begun: its endpoint is an absolute URL, all headers are valid, no
coordinate and not the file is unnamed, and neither the line limit nor the window is zero. -/
structure Sound (line : CommandLine) (settings : Settings) : Prop where
  endpoint : (Url.parse? (endpointText line settings)).isSome
  settingsHeaders : ∀ pair ∈ settings.headers.entries, Header.IsValid pair
  lineHeaders : ∀ pair ∈ line.options.headers, Header.IsValid pair
  coordinates : ∀ given ∈ [line.agentId, line.frameworkId, line.executorId, line.containerId],
    given ≠ ""
  file : line.file ≠ ""
  limit : 0 < line.readConfig.maxLines
  window : 0 < line.options.chunkSize.getD settings.chunkSize

variable {line : CommandLine} {settings : Settings} {plan : Plan}

theorem requestHeaders_eq_ok_iff :
    (∃ headers, requestHeaders line settings = .ok headers) ↔
      (∀ pair ∈ settings.headers.entries, Header.IsValid pair) ∧
        ∀ pair ∈ line.options.headers, Header.IsValid pair := by
  rw [← Header.ofPairs_eq_ok_iff, ← Header.ofPairs_eq_ok_iff, requestHeaders,
    Settings.requestHeaders, CommandLine.requestHeaders]
  cases Header.ofPairs settings.headers.entries <;>
    cases Header.ofPairs line.options.headers <;> simp [bind, Except.bind, pure, Except.pure]

/-- A plan is what the command line and the settings ask for. -/
theorem make_eq_ok_iff :
    make line settings = .ok plan ↔
      ∃ url headers, Url.parse? (endpointText line settings) = some url ∧
        requestHeaders line settings = .ok headers ∧
        plan =
          { url
            coordinates := line.coordinates
            file := line.file
            format := line.format
            config :=
              { line.readConfig with
                headers := headers
                chunkSize := line.options.chunkSize.getD settings.chunkSize }
            pollInterval := line.options.pollInterval.getD settings.pollInterval } := by
  simp only [make]
  cases Url.parse? (endpointText line settings) with
  | none => simp
  | some url =>
      cases requestHeaders line settings with
      | error error => simp
      | ok headers => simp [eq_comm]

theorem required_coordinates (line : CommandLine) :
    line.coordinates.required =
      [("agent id", line.agentId), ("framework id", line.frameworkId),
        ("executor id", line.executorId), ("container id", line.containerId)] := by
  unfold CommandLine.coordinates
  cases line.options.taskPath <;> rfl

theorem validate_coordinates_iff :
    line.coordinates.validate = .ok () ↔
      ∀ given ∈ [line.agentId, line.frameworkId, line.executorId, line.containerId],
        given ≠ "" := by
  have find_iff : line.coordinates.validate = .ok () ↔
      line.coordinates.required.find? (·.2.isEmpty) = none := by
    unfold TaskCoordinates.validate
    cases line.coordinates.required.find? (·.2.isEmpty) <;> simp
  rw [find_iff, required_coordinates, List.find?_eq_none]
  simp

theorem checked_eq_ok_iff {coordinates : TaskCoordinates} {file : String} {config : ReadConfig} :
    Cursor.checked coordinates file config = .ok () ↔
      coordinates.validate = .ok () ∧ file ≠ "" ∧ 0 < config.maxLines ∧ 0 < config.chunkSize := by
  unfold Cursor.checked ReadConfig.validate
  cases coordinates.validate with
  | error error => simp [bind, Except.bind]
  | ok _ =>
      simp only [bind, Except.bind, String.isEmpty_iff, Nat.pos_iff_ne_zero, true_and]
      split <;> rename_i unnamed
      · simp [unnamed]
      · split <;> rename_i no_lines
        · simp [no_lines]
        · split <;> rename_i no_window
          · simp [no_window]
          · simp [unnamed, no_lines, no_window]

/-- The inputs are sound exactly if they make a plan and a cursor of that plan passes its checks. -/
theorem sound_iff :
    Sound line settings ↔
      ∃ plan, make line settings = .ok plan ∧
        Cursor.checked plan.coordinates plan.file plan.config = .ok () := by
  constructor
  · intro sound
    obtain ⟨url, parsed⟩ := Option.isSome_iff_exists.mp sound.endpoint
    obtain ⟨headers, collected⟩ :=
      requestHeaders_eq_ok_iff.mpr ⟨sound.settingsHeaders, sound.lineHeaders⟩
    refine ⟨_, make_eq_ok_iff.mpr ⟨url, headers, parsed, collected, rfl⟩, ?_⟩
    exact checked_eq_ok_iff.mpr
      ⟨validate_coordinates_iff.mpr sound.coordinates, sound.file, sound.limit, sound.window⟩
  · rintro ⟨plan, made, checks⟩
    obtain ⟨url, headers, parsed, collected, rfl⟩ := make_eq_ok_iff.mp made
    obtain ⟨coordinates, file, limit, window⟩ := checked_eq_ok_iff.mp checks
    obtain ⟨settingsHeaders, lineHeaders⟩ := requestHeaders_eq_ok_iff.mp ⟨headers, collected⟩
    exact
      { endpoint := parsed ▸ rfl
        settingsHeaders
        lineHeaders
        coordinates := validate_coordinates_iff.mp coordinates
        file
        limit
        window }

end Plan

/-! ## Sessions that cannot be begun -/

namespace Cursor

variable {m : Type → Type} [Monad m]

/-- A start that does not pass its checks has no effect. -/
theorem start_of_unsound {coordinates : TaskCoordinates} {file : String} {config : ReadConfig}
    {error : Error} (unsound : checked coordinates file config = .error error)
    (endpoint : Endpoint m) (formatter : Formatter) :
    start endpoint coordinates file formatter config = pure (some (.error error)) := by
  unfold checked at unsound
  unfold start
  simp only [unsound]

end Cursor

namespace Session

variable {line : CommandLine} {settings : Settings}

/-- A session whose inputs are not sound ends with an error and has no effect in any
surroundings. -/
theorem run_of_not_sound (unsound : ¬ Plan.Sound line settings) :
    ∃ error, ∀ {m : Type → Type} [Monad m] [LawfulMonad m] (surroundings : Surroundings m)
      (limit : Nat), run surroundings line settings limit = pure (some (.error error)) := by
  rw [Plan.sound_iff] at unsound
  cases made : Plan.make line settings with
  | error error =>
      refine ⟨error, ?_⟩
      intro m _ _ surroundings limit
      rw [run, made]
  | ok plan =>
      cases checks : Cursor.checked plan.coordinates plan.file plan.config with
      | ok _ => exact absurd ⟨plan, made, checks⟩ unsound
      | error error =>
          refine ⟨.cursor error, ?_⟩
          intro m _ _ surroundings limit
          rw [run, made]
          simp only [begin, Cursor.start_of_unsound checks, pure_bind]

end Session

end RemoteTail

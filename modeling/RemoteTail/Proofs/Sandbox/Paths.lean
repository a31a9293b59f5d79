import RemoteTail.Sandbox
import RemoteTail.Text.Separated

/-!
# Paths of sandbox files

The parts of a path between its slashes are the parts of the root, the
identifiers with fixed words before them, the parts of the task directory and the
name of the file (`parts_filePath`).  There is one part after the container, or
there are at least three, so that the path tells whether it leads into a task
directory, and the parts tell everything else (`filePath_inj`).
-/

namespace RemoteTail

namespace Separated

variable {separator : Char} {text left right : List Char}

theorem parts_of_free (free : separator ∉ text) : parts separator text = [text] := by
  induction text with
  | nil => rfl
  | cons c text ih =>
      rw [List.mem_cons, not_or] at free
      rw [parts, if_neg (Ne.symm free.1), ih free.2]

theorem parts_append_cons (separator : Char) (left right : List Char) :
    parts separator (left ++ separator :: right) =
      parts separator left ++ parts separator right := by
  induction left with
  | nil => simp [parts]
  | cons c left ih =>
      rw [List.cons_append, parts, parts, ih]
      by_cases found : c = separator
      · rw [if_pos found, if_pos found, List.cons_append]
      · rw [if_neg found, if_neg found]
        obtain ⟨first, more, parts_eq⟩ := List.exists_cons_of_ne_nil (parts_ne_nil separator left)
        rw [parts_eq, List.cons_append, List.cons_append]

/-- The parts of a text determine it. -/
theorem parts_inj : parts separator left = parts separator right ↔ left = right := by
  refine ⟨fun same => ?_, congrArg (parts separator)⟩
  rw [← join_parts separator left, same, join_parts]

end Separated

namespace TaskCoordinates

open Separated

variable {coordinates first second : TaskCoordinates} {file other : String}

/-- No identifier contains a slash. -/
def HasPlainIds (coordinates : TaskCoordinates) : Prop :=
  ∀ id ∈ coordinates.required, '/' ∉ id.2.toList

instance : Decidable coordinates.HasPlainIds :=
  inferInstanceAs (Decidable (∀ id ∈ coordinates.required, '/' ∉ id.2.toList))

/-- The parts of a path after those of the root and before those of the task directory. -/
def idParts (coordinates : TaskCoordinates) : List (List Char) :=
  [coordinates.agentId.toList, "frameworks".toList, coordinates.frameworkId.toList,
    "executors".toList, coordinates.executorId.toList, "runs".toList,
    coordinates.containerId.toList]

/-- The parts of a path that lead into a task directory. -/
def taskParts (coordinates : TaskCoordinates) : List (List Char) :=
  match coordinates.taskPath with
  | none => []
  | some taskPath => "tasks".toList :: parts '/' taskPath.toList

theorem toList_filePath (coordinates : TaskCoordinates) (file : String) :
    (coordinates.filePath file).toList =
      root.toList ++ '/' :: (coordinates.agentId.toList ++ '/' :: ("frameworks".toList ++ '/' ::
        (coordinates.frameworkId.toList ++ '/' :: ("executors".toList ++ '/' ::
          (coordinates.executorId.toList ++ '/' :: ("runs".toList ++ '/' ::
            (coordinates.containerId.toList ++ '/' ::
              match coordinates.taskPath with
              | none => file.toList
              | some taskPath => "tasks".toList ++ '/' :: (taskPath.toList ++ '/' :: file.toList)
              ))))))) := by
  rw [filePath, sandboxPath]
  cases coordinates.taskPath with
  | none => simp
  | some taskPath => simp

/-- The parts of a path.  Only the task directory may give more parts than it has names. -/
theorem parts_filePath (plainIds : coordinates.HasPlainIds) (plain : '/' ∉ file.toList) :
    parts '/' (coordinates.filePath file).toList =
      parts '/' root.toList ++
        (coordinates.idParts ++ (coordinates.taskParts ++ [file.toList])) := by
  simp only [HasPlainIds, required, List.forall_mem_cons] at plainIds
  obtain ⟨agent, framework, executor, container, _⟩ := plainIds
  have frameworks : '/' ∉ "frameworks".toList := by decide
  have executors : '/' ∉ "executors".toList := by decide
  have runs : '/' ∉ "runs".toList := by decide
  have tasks : '/' ∉ "tasks".toList := by decide
  rw [toList_filePath, idParts, taskParts]
  cases coordinates.taskPath with
  | none =>
      simp only [parts_append_cons, parts_of_free agent, parts_of_free frameworks,
        parts_of_free framework, parts_of_free executors, parts_of_free executor,
        parts_of_free runs, parts_of_free container, parts_of_free plain]
      rfl
  | some taskPath =>
      simp only [parts_append_cons, parts_of_free agent, parts_of_free frameworks,
        parts_of_free framework, parts_of_free executors, parts_of_free executor,
        parts_of_free runs, parts_of_free container, parts_of_free tasks, parts_of_free plain]
      rfl

theorem taskPath_eq_of_taskParts_eq (same : first.taskParts = second.taskParts) :
    first.taskPath = second.taskPath := by
  unfold taskParts at same
  generalize first.taskPath = path at same ⊢
  generalize second.taskPath = otherPath at same ⊢
  cases path with
  | none =>
      cases otherPath with
      | none => rfl
      | some _ => cases same
  | some taskPath =>
      cases otherPath with
      | none => cases same
      | some _ => rw [String.toList_inj.mp (parts_inj.mp (List.cons.inj same).2)]

/-- A path leads to one file of one sandbox.  This asks nothing of the task directory, so that it
may look like the parts around it, and nothing of the length of any name. -/
theorem filePath_inj (firstIds : first.HasPlainIds) (secondIds : second.HasPlainIds)
    (filePlain : '/' ∉ file.toList) (otherPlain : '/' ∉ other.toList) :
    first.filePath file = second.filePath other ↔ first = second ∧ file = other := by
  constructor
  · intro same
    have parts_eq := congrArg (fun path => parts '/' path.toList) same
    simp only [parts_filePath firstIds filePlain, parts_filePath secondIds otherPlain] at parts_eq
    obtain ⟨ids_eq, rest_eq⟩ := List.append_inj (List.append_cancel_left parts_eq) rfl
    obtain ⟨tasks_eq, file_eq⟩ := List.append_inj' rest_eq rfl
    have taskPath_eq := taskPath_eq_of_taskParts_eq tasks_eq
    simp only [idParts, List.cons.injEq, String.toList_inj, true_and, and_true] at ids_eq
    obtain ⟨agent_eq, framework_eq, executor_eq, container_eq⟩ := ids_eq
    refine ⟨?_, String.toList_inj.mp (List.cons.inj file_eq).1⟩
    cases first
    cases second
    simp only [mk.injEq]
    exact ⟨agent_eq, framework_eq, executor_eq, container_eq, taskPath_eq⟩
  · rintro ⟨rfl, rfl⟩
    rfl

/-- A task directory that repeats the words around it, and the same without its last part. -/
theorem filePath_inj_of_repeated_words :
    ∃ first second : TaskCoordinates,
      first = withTaskPath ⟨"runs", "f", "tasks", "tasks", none⟩ "runs/tasks/tasks" ∧
      second = first.withTaskPath "runs/tasks" ∧
      first.validate = .ok () ∧ second.validate = .ok () ∧
      first.HasPlainIds ∧ second.HasPlainIds ∧ '/' ∉ "stdout".toList ∧
      first.filePath "stdout" ≠ second.filePath "stdout" := by
  refine ⟨_, _, rfl, rfl, rfl, rfl, by decide, by decide, by decide, fun same => ?_⟩
  have coordinates_eq := ((filePath_inj (by decide) (by decide) (by decide) (by decide)).mp same).1
  exact absurd (congrArg taskPath coordinates_eq) (by decide)

end TaskCoordinates

end RemoteTail

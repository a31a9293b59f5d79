import RemoteTail.Error

/-!
# Sandbox paths

A task's files lie in the sandbox of its container, below a fixed root on its
agent.  Tasks inside a pod have a directory of their own in it.
-/

namespace RemoteTail

/-- Where a task's sandbox lies. -/
structure TaskCoordinates where
  /-- The agent that runs the task. -/
  agentId : String
  /-- The framework of the task. -/
  frameworkId : String
  /-- The executor of the task. -/
  executorId : String
  /-- The container of the executor. -/
  containerId : String
  /-- The directory of a task inside a pod. -/
  taskPath : Option String := none
deriving DecidableEq, Repr

namespace TaskCoordinates

/-- The directory of all sandboxes of an agent. -/
def root : String :=
  "/var/lib/mesos/slave/slaves"

/-- The file that is read when none is named. -/
def defaultFile : String :=
  "stdout"

/-- The coordinates with a task directory; an empty one means none. -/
def withTaskPath (coordinates : TaskCoordinates) (taskPath : String) : TaskCoordinates :=
  { coordinates with taskPath := if taskPath.isEmpty then none else some taskPath }

/-- The required identifiers with their names, in the order in which they are checked. -/
def required (coordinates : TaskCoordinates) : List (String × String) :=
  [("agent id", coordinates.agentId), ("framework id", coordinates.frameworkId),
    ("executor id", coordinates.executorId), ("container id", coordinates.containerId)]

/-- Every required identifier has to be non-empty; the first that is not is reported. -/
def validate (coordinates : TaskCoordinates) : Except Error Unit :=
  match coordinates.required.find? (·.2.isEmpty) with
  | some (name, _) => .error (.emptyCoordinate name)
  | none => .ok ()

/-- The sandbox directory, with a slash at its end. -/
def sandboxPath (coordinates : TaskCoordinates) : String :=
  let sandbox := root ++ "/" ++ coordinates.agentId ++ "/frameworks/" ++ coordinates.frameworkId ++
    "/executors/" ++ coordinates.executorId ++ "/runs/" ++ coordinates.containerId ++ "/"
  match coordinates.taskPath with
  | none => sandbox
  | some taskPath => sandbox ++ "tasks/" ++ taskPath ++ "/"

/-- The path of a file in the sandbox. -/
def filePath (coordinates : TaskCoordinates) (file : String) : String :=
  coordinates.sandboxPath ++ file

end TaskCoordinates

end RemoteTail

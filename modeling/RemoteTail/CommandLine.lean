import RemoteTail.Cursor.Config
import RemoteTail.Sandbox

/-!
# Command lines

What a command line asks for: the coordinates of a task, and options, each of
which may be left out.
-/

namespace RemoteTail

/-- The number of last lines, unless another number is given. -/
def defaultLines : Nat :=
  10

/-- The options that have been given. -/
structure Options where
  /-- The directory of a task inside a pod. -/
  taskPath : Option String := none
  /-- The file in the sandbox. -/
  file : Option String := none
  /-- The number of lines. -/
  lines : Option Nat := none
  /-- Whether to start at the last lines. -/
  tail : Bool := false
  /-- Whether to go on at the end of the file. -/
  follow : Bool := false
  /-- The output format. -/
  format : Option OutputFormat := none
  /-- Further request headers, in the order in which they were given. -/
  headers : List (String × String) := []
  /-- The URL of the endpoint. -/
  endpoint : Option String := none
  /-- The octets that are asked for in one read. -/
  chunkSize : Option Nat := none
  /-- The milliseconds between two polls of a followed file. -/
  pollInterval : Option Nat := none
deriving DecidableEq, Repr

/-- A command line. -/
structure CommandLine where
  /-- The agent that runs the task. -/
  agentId : String
  /-- The framework of the task. -/
  frameworkId : String
  /-- The executor of the task. -/
  executorId : String
  /-- The container of the executor. -/
  containerId : String
  /-- The options. -/
  options : Options
deriving DecidableEq, Repr

namespace CommandLine

/-- The coordinates of the task. -/
def coordinates (line : CommandLine) : TaskCoordinates :=
  let bare : TaskCoordinates :=
    { agentId := line.agentId, frameworkId := line.frameworkId, executorId := line.executorId,
      containerId := line.containerId }
  match line.options.taskPath with
  | none => bare
  | some taskPath => bare.withTaskPath taskPath

/-- The file to read. -/
def file (line : CommandLine) : String :=
  line.options.file.getD TaskCoordinates.defaultFile

/-- The output format. -/
def format (line : CommandLine) : OutputFormat :=
  line.options.format.getD .text

/-- How the file is to be read, apart from headers and window.  The last lines are ten unless a
number is given; from the beginning, all lines are wanted. -/
def readConfig (line : CommandLine) : ReadConfig where
  direction := if line.options.tail then .bottomToTop else .topToBottom
  maxLines := line.options.lines.getD (if line.options.tail then defaultLines else unlimited)
  stream := line.options.follow

/-- The request headers that the options ask for. -/
def requestHeaders (line : CommandLine) : Except Error Headers :=
  Header.ofPairs line.options.headers

end CommandLine

end RemoteTail

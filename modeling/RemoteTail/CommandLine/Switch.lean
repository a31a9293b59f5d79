import RemoteTail.CommandLine
import RemoteTail.Text.Decimal

/-!
# Switches

The options by name.  Every switch has a long spelling, most have a letter too.
A switch may take a value, and may be given once; only headers may be given
again and again.
-/

namespace RemoteTail

/-- The switches that take a value. -/
inductive Setting where
  /-- The directory of a task inside a pod. -/
  | taskPath
  /-- The file in the sandbox. -/
  | file
  /-- The number of lines. -/
  | lines
  /-- The output format. -/
  | format
  /-- A request header. -/
  | header
  /-- The URL of the endpoint. -/
  | endpoint
  /-- The octets that are asked for in one read. -/
  | chunkSize
  /-- The milliseconds between two polls. -/
  | pollInterval
deriving DecidableEq, Repr

/-- The switches that stand alone. -/
inductive Flag where
  /-- Start at the last lines. -/
  | tail
  /-- Go on at the end of the file. -/
  | follow
  /-- Show how the program is called. -/
  | help
  /-- Show the version of the program. -/
  | version
deriving DecidableEq, Repr

/-- A switch. -/
inductive Switch where
  /-- A switch that takes a value. -/
  | setting (setting : Setting)
  /-- A switch that stands alone. -/
  | flag (flag : Flag)
deriving DecidableEq, Repr

namespace Switch

/-- All switches. -/
def all : List Switch :=
  [.setting .taskPath, .setting .file, .setting .lines, .flag .tail, .flag .follow,
    .setting .format, .setting .header, .setting .endpoint, .setting .chunkSize,
    .setting .pollInterval, .flag .help, .flag .version]

/-- The long spelling, without the two hyphens before it. -/
def long : Switch → String
  | .setting .taskPath => "task-path"
  | .setting .file => "file"
  | .setting .lines => "lines"
  | .setting .format => "format"
  | .setting .header => "header"
  | .setting .endpoint => "endpoint"
  | .setting .chunkSize => "chunk-size"
  | .setting .pollInterval => "poll-interval-ms"
  | .flag .tail => "tail"
  | .flag .follow => "follow"
  | .flag .help => "help"
  | .flag .version => "version"

/-- The letter, without the hyphen before it. -/
def letter? : Switch → Option Char
  | .setting .lines => some 'n'
  | .setting .header => some 'H'
  | .flag .tail => some 't'
  | .flag .follow => some 'f'
  | .flag .help => some 'h'
  | .flag .version => some 'V'
  | _ => none

/-- The switch with a long spelling.  Neither shortened nor otherwise cased spellings count. -/
def ofLong? (name : String) : Option Switch :=
  all.find? fun switch => switch.long = name

/-- The switch with a letter. -/
def ofLetter? (letter : Char) : Option Switch :=
  all.find? fun switch => switch.letter? = some letter

@[simp]
theorem ofLong?_long (switch : Switch) : ofLong? switch.long = some switch := by
  rcases switch with (_ | _ | _ | _ | _ | _ | _ | _) | (_ | _ | _ | _) <;> decide

end Switch

/-- Why a command line does not lead to a run. -/
inductive Refusal where
  /-- An argument is no switch and has no place. -/
  | unknown
  /-- A switch lacks its value. -/
  | noValue
  /-- A value is none of those that its switch lists. -/
  | unlistedValue
  /-- A value cannot be read. -/
  | unreadableValue
  /-- A switch that stands alone is given a value. -/
  | needlessValue
  /-- A switch is given twice. -/
  | repeated
  /-- Fewer coordinates are given than a task has. -/
  | missingCoordinate
  /-- An explanation is asked for instead. -/
  | help
  /-- The version is asked for instead. -/
  | version
deriving DecidableEq, Repr

namespace Options

/-- An unsigned number of 64 bits: decimal digits, with a plus sign before them or not. -/
def word? (text : String) : Option Nat :=
  let digits := match text.toList with
    | '+' :: digits => digits
    | digits => digits
  Decimal.below? (1 <<< 64) digits

/-- The output format with a name. -/
def format? : String → Option OutputFormat
  | "text" => some .text
  | "json" => some .json
  | "sse" => some .sse
  | _ => none

/-- The value to set in a field: a field may be set once, and the value has to be readable. -/
def setOnce {α : Type} (given : Option α) (value : Except Refusal α) : Except Refusal (Option α) :=
  if given.isSome then .error .repeated else value.map some

/-- A reading as the value of a switch. -/
def orRefuse {α : Type} (refusal : Refusal) : Option α → Except Refusal α
  | none => .error refusal
  | some value => .ok value

/-- The options with one more value set. -/
def assign (options : Options) : Setting → String → Except Refusal Options
  | .taskPath, value => do
    return { options with taskPath := ← setOnce options.taskPath (.ok value) }
  | .file, value => do
    return { options with file := ← setOnce options.file (.ok value) }
  | .lines, value => do
    let number := orRefuse .unreadableValue (word? value)
    return { options with lines := ← setOnce options.lines number }
  | .format, value => do
    let format := orRefuse .unlistedValue (format? value)
    return { options with format := ← setOnce options.format format }
  | .header, value =>
    match Header.parse value with
    | .error _ => .error .unreadableValue
    | .ok header => .ok { options with headers := options.headers ++ [header] }
  | .endpoint, value => do
    return { options with endpoint := ← setOnce options.endpoint (.ok value) }
  | .chunkSize, value => do
    let number := orRefuse .unreadableValue (word? value)
    return { options with chunkSize := ← setOnce options.chunkSize number }
  | .pollInterval, value => do
    let number := orRefuse .unreadableValue (word? value)
    return { options with pollInterval := ← setOnce options.pollInterval number }

/-- The options with one more flag raised. -/
def raise (options : Options) : Flag → Except Refusal Options
  | .tail => if options.tail then .error .repeated else .ok { options with tail := true }
  | .follow => if options.follow then .error .repeated else .ok { options with follow := true }
  | .help => .error .help
  | .version => .error .version

end Options

end RemoteTail

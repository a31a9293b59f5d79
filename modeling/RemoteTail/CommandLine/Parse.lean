import RemoteTail.CommandLine.Switch

/-!
# Reading command lines

Arguments are taken one by one from the left, and the first problem ends the
reading.  A value that is an argument of its own waits: it is looked at when
the next switch or coordinate is taken, or at the end.
-/

namespace RemoteTail.CommandLine

/-- A command line as far as it has been read. -/
structure Draft where
  /-- The coordinates, in order. -/
  coordinates : List String := []
  /-- The options. -/
  options : Options := {}
  /-- A switch that has been taken without its value, and the value once it has come. -/
  waiting : Option (Setting × Option String) := none
  /-- Whether everything that follows is a coordinate. -/
  switchesOver : Bool := false
deriving DecidableEq, Repr

/-- The number of coordinates of a task. -/
def coordinateCount : Nat :=
  4

namespace Draft

/-- Looks at the value that has been waiting. -/
def settle (draft : Draft) : Except Refusal Draft :=
  match draft.waiting with
  | none => .ok draft
  | some (_, none) => .error .noValue
  | some (setting, some value) =>
    (draft.options.assign setting value).map fun options =>
      { draft with options, waiting := none }

/-- Takes a coordinate, if there is a place for another one. -/
def takeCoordinate (draft : Draft) (argument : String) : Except Refusal Draft :=
  if draft.coordinates.length < coordinateCount then
    draft.settle.map fun draft => { draft with coordinates := draft.coordinates ++ [argument] }
  else .error .unknown

/-- Takes a switch that takes a value, together with the value if it is attached. -/
def takeSetting (draft : Draft) (setting : Setting) (attached : Option String) :
    Except Refusal Draft := do
  let draft ← draft.settle
  match attached with
  | none => return { draft with waiting := some (setting, none) }
  | some value => return { draft with options := ← draft.options.assign setting value }

/-- Takes a switch that stands alone. -/
def takeFlag (draft : Draft) (flag : Flag) : Except Refusal Draft := do
  let draft ← draft.settle
  return { draft with options := ← draft.options.raise flag }

/-- The value that is attached to a letter, if anything is; an equals sign may come before it. -/
def attached? : List Char → Option String
  | [] => none
  | '=' :: value => some (String.ofList value)
  | value => some (String.ofList value)

/-- Takes letters up to the first that takes a value; to that one the rest is attached. -/
def takeLetters (draft : Draft) : List Char → Except Refusal Draft
  | [] => .ok draft
  | letter :: rest =>
    match Switch.ofLetter? letter with
    | none => .error .unknown
    | some (.setting setting) => draft.takeSetting setting (attached? rest)
    | some (.flag flag) => draft.takeFlag flag >>= fun draft => takeLetters draft rest

/-- Takes a long switch; what follows the first equals sign is attached to it. -/
def takeLong (draft : Draft) (spelling : List Char) : Except Refusal Draft :=
  let name := String.ofList (spelling.takeWhile (· ≠ '='))
  let attached := match spelling.dropWhile (· ≠ '=') with
    | [] => none
    | _ :: value => some (String.ofList value)
  match Switch.ofLong? name, attached with
  | none, _ => .error .unknown
  | some (.setting setting), attached => draft.takeSetting setting attached
  | some (.flag _), some _ => .error .needlessValue
  | some (.flag flag), none => draft.takeFlag flag

/-- Takes an argument that is no switch: a value that a switch lacks, or else a coordinate. -/
def takePlain (draft : Draft) (argument : String) : Except Refusal Draft :=
  match draft.waiting with
  | some (setting, none) => .ok { draft with waiting := some (setting, some argument) }
  | _ => draft.takeCoordinate argument

/-- Takes an argument.  Two hyphens begin a long switch, one hyphen begins letters, and two hyphens
alone end the switches; one hyphen alone is no switch. -/
def take (draft : Draft) (argument : String) : Except Refusal Draft :=
  if draft.switchesOver then draft.takeCoordinate argument
  else
    match argument.toList with
    | ['-', '-'] => .ok { draft with switchesOver := true }
    | '-' :: '-' :: spelling => draft.takeLong spelling
    | '-' :: letter :: letters => draft.takeLetters (letter :: letters)
    | _ => draft.takePlain argument

/-- The command line that has been read, with the endpoint that the environment names if the
arguments name none. -/
def finish (draft : Draft) (environment : Option String) : Except Refusal CommandLine := do
  let draft ← draft.settle
  match draft.coordinates with
  | [agentId, frameworkId, executorId, containerId] =>
    let options :=
      { draft.options with endpoint := draft.options.endpoint.orElse fun _ => environment }
    return { agentId, frameworkId, executorId, containerId, options }
  | _ => .error .missingCoordinate

end Draft

/-- The command line that a list of arguments spells, in an environment that may name an
endpoint. -/
def parse (arguments : List String) (environment : Option String) : Except Refusal CommandLine :=
  arguments.foldlM Draft.take {} >>= fun draft => draft.finish environment

end RemoteTail.CommandLine

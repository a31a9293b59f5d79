import RemoteTail.CommandLine.Parse
import RemoteTail.Cursor
import RemoteTail.Remote.Http
import RemoteTail.Settings

/-!
# Sessions

A session prints a remote file as a command line and the settings ask for.  It
first draws up a plan, which needs no read, and then takes turns: each turn
pulls once and prints the block, or waits if a followed file has no more.  The
surroundings supply the effects.
-/

namespace RemoteTail

/-- Why a session ends before its time. -/
inductive SessionError where
  /-- The endpoint is no absolute URL. -/
  | invalidEndpoint (given : String)
  /-- The cursor could not be built, or a pull failed. -/
  | cursor (error : Error)
deriving DecidableEq, Repr

/-- The wording of the error. -/
def SessionError.message : SessionError → String
  | .invalidEndpoint given => "invalid endpoint " ++ given
  | .cursor error => error.message

/-- What a session is going to do. -/
structure Plan where
  /-- The endpoint. -/
  url : Url
  /-- Where the sandbox lies. -/
  coordinates : TaskCoordinates
  /-- The file in the sandbox. -/
  file : String
  /-- The output format. -/
  format : OutputFormat
  /-- How the file is read. -/
  config : ReadConfig
  /-- The milliseconds between two polls of a followed file. -/
  pollInterval : Nat
deriving DecidableEq, Repr

namespace Plan

/-- The endpoint that a command line asks for, or else the settings. -/
def endpointText (line : CommandLine) (settings : Settings) : String :=
  line.options.endpoint.getD settings.endpoint

/-- The headers of every request: those of the settings, and over them those of the command
line. -/
def requestHeaders (line : CommandLine) (settings : Settings) : Except Error Headers := do
  let general ← settings.requestHeaders
  let special ← line.requestHeaders
  return general.extend special

/-- The plan for a command line.  The endpoint is looked at first, then the headers. -/
def make (line : CommandLine) (settings : Settings) : Except SessionError Plan :=
  let given := endpointText line settings
  match Url.parse? given, requestHeaders line settings with
  | none, _ => .error (.invalidEndpoint given)
  | some _, .error error => .error (.cursor error)
  | some url, .ok headers =>
    .ok
      { url
        coordinates := line.coordinates
        file := line.file
        format := line.format
        config :=
          { line.readConfig with
            headers := headers
            chunkSize := line.options.chunkSize.getD settings.chunkSize }
        pollInterval := line.options.pollInterval.getD settings.pollInterval }

end Plan

/-- What a session needs from its surroundings. -/
structure Surroundings (m : Type → Type) where
  /-- Exchanges a request for its outcome; `none` if the user interrupts first. -/
  exchange : HttpRequest → m (Option HttpOutcome)
  /-- Waits for some milliseconds; answers whether the user interrupted. -/
  wait : Nat → m Bool
  /-- Prints a block at once. -/
  print : Bytes → m Unit

namespace Session

variable {m : Type → Type} [Monad m]

/-- How a session ends, if it does so in time. -/
abbrev Ending := Except SessionError Unit

/-- What a turn leads to. -/
inductive Turn where
  /-- The session is over. -/
  | over (ending : Ending)
  /-- Another turn follows. -/
  | next (cursor : Cursor)

/-- The cursor of a plan; `none` if the user interrupts its construction. -/
def begin (surroundings : Surroundings m) (plan : Plan) : m (Option (Except Error Cursor)) :=
  Cursor.start (plan.url.endpoint surroundings.exchange) plan.coordinates plan.file
    plan.format.formatter plan.config

/-- One turn.  A line that cannot be written is passed over, and an interruption ends the session
in good order. -/
def turn (surroundings : Surroundings m) (plan : Plan) (c : Cursor) : m Turn := do
  match ← c.pullUntil (plan.url.endpoint surroundings.exchange) .waiting with
  | none => return .over (.ok ())
  | some (.ok (some block), c) =>
    surroundings.print block
    return .next c
  | some (.ok none, c) =>
    if c.config.stream then
      if ← surroundings.wait plan.pollInterval then return .over (.ok ()) else return .next c
    else return .over (.ok ())
  | some (.error .cancelled, _) => return .over (.ok ())
  | some (.error (.format _), c) => return .next c
  | some (.error error, _) => return .over (.error (.cursor error))

/-- Takes up to `turns` turns; `none` if the session is not over by then. -/
def turns (surroundings : Surroundings m) (plan : Plan) :
    (limit : Nat) → Cursor → m (Option Ending)
  | 0, _ => return none
  | limit + 1, c => do
    match ← turn surroundings plan c with
    | .over ending => return some ending
    | .next c => turns surroundings plan limit c

/-- Runs a session for up to `limit` turns; `none` if it is not over by then. -/
def run (surroundings : Surroundings m) (line : CommandLine) (settings : Settings)
    (limit : Nat) : m (Option Ending) :=
  match Plan.make line settings with
  | .error error => return some (.error error)
  | .ok plan => do
    match ← begin surroundings plan with
    | none => return none
    | some (.error error) => return some (.error (.cursor error))
    | some (.ok c) => turns surroundings plan limit c

end Session

/-- The exit code of a refused command line: asking for an explanation is no mistake. -/
def Refusal.exitCode : Refusal → Nat
  | .help | .version => 0
  | _ => 2

/-- The exit code of a session. -/
def Session.Ending.exitCode : Session.Ending → Nat
  | .ok () => 0
  | .error _ => 1

end RemoteTail

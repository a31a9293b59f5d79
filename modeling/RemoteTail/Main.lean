import RemoteTail.CommandLine.Usage
import RemoteTail.Remote.Wire
import RemoteTail.Session
import Std.Async.DNS
import Std.Async.Signal
import Std.Async.TCP
import Std.Async.Timer

/-!
# The program

Supplies the effects of a session: connections, waiting, the interrupt of the
user, and the standard streams.  The connections are plain ones; a session
itself makes no difference between them and secured ones.
-/

namespace RemoteTail.Program

open Std.Async Std.Net

/-- The name of the program. -/
def name : String :=
  "sandtail"

/-- The version of the program. -/
def version : String :=
  "0.1.0"

/-- The environment variable that may name the endpoint. -/
def endpointVariable : String :=
  "SANDTAIL_ENDPOINT"

/-- The settings file in the directory for configurations. -/
def settingsFile (configurations : String) : String :=
  configurations ++ "/" ++ name ++ "/settings.json"

/-- The directory for configurations: the one that is set if its path is absolute, or else the one
in the home directory. -/
def configurations? : IO (Option String) := do
  let home ← IO.getEnv "HOME"
  let inHome := (home.filter fun home => !home.isEmpty).map (· ++ "/.config")
  match ← IO.getEnv "XDG_CONFIG_HOME" with
  | some directory => return if directory.startsWith "/" then some directory else inHome
  | none => return inHome

/-- The octets of the settings file, if there is one that can be read. -/
def readSettings : IO (Option Bytes) := do
  match ← configurations? with
  | none => return none
  | some configurations =>
    try
      return some (← IO.FS.readBinFile (settingsFile configurations)).toList
    catch _ => return none

/-- The addresses of a host. -/
def addresses : Host → Async (List IPAddr)
  | .name name => return (← DNS.getAddrInfo name "" none).toList
  | .ipv4 address =>
    let octet := fun (shift : Nat) => UInt8.ofNat (address >>> shift)
    return [.v4 (.ofParts (octet 24) (octet 16) (octet 8) (octet 0))]
  | .ipv6 pieces =>
    let piece := fun (index : Nat) => UInt16.ofNat (pieces.getD index 0)
    return [.v6 (.ofParts (piece 0) (piece 1) (piece 2) (piece 3) (piece 4) (piece 5) (piece 6)
      (piece 7))]

/-- An address with a port. -/
def socketAddress (port : Nat) : IPAddr → SocketAddress
  | .v4 addr => .v4 ⟨addr, UInt16.ofNat port⟩
  | .v6 addr => .v6 ⟨addr, UInt16.ofNat port⟩

/-- The octets that are taken from a connection at once. -/
def receiveSize : UInt64 :=
  65536

/-- Everything that comes over a connection until it is closed. -/
partial def receiveAll (client : TCP.Socket.Client) (received : ByteArray) : Async ByteArray := do
  match ← client.recv? receiveSize with
  | none => return received
  | some more => receiveAll client (received ++ more)

/-- The port that a URL stands for. -/
def port (url : WebUrl) : Nat :=
  url.port.getD url.scheme.usualPort

/-- Sends a request over a new plain connection and takes in the answer. -/
def transferInTheClear (request : HttpRequest) : Async HttpOutcome := do
  match ← addresses request.url.host with
  | [] => return .unanswered
  | address :: _ =>
    let client ← TCP.Socket.Client.mk
    client.connect (socketAddress (port request.url) address)
    client.send (ByteArray.mk request.encode.toArray)
    return .decode (← receiveAll client .empty).toList

/-- Sends a request and takes in the answer.  The program has no secured connections to offer, so
what asks for one is not answered. -/
def transfer (request : HttpRequest) : Async HttpOutcome :=
  match request.url.scheme with
  | .http => transferInTheClear request
  | .https => return .unanswered

/-- A request for its outcome; connections that fail are no answer. -/
def exchange (request : HttpRequest) : Async HttpOutcome := do
  try
    transfer request
  catch _ => return .unanswered

/-- The interrupt of the user, once the program listens for it. -/
abbrev Interrupt := Option (AsyncTask Int)

/-- Runs an action until it is done or the user interrupts. -/
def unlessInterrupted {α : Type} (interrupt : Interrupt) (action : Async α) :
    IO (Option α) := do
  let acting ← action.toIO
  match interrupt with
  | none => return some (← acting.block)
  | some interrupt =>
    let done ← acting.mapIO fun result => pure (some result)
    let interrupted ← interrupt.mapIO fun _ => pure none
    IO.ofExcept (← IO.waitAny [interrupted, done])

/-- Writes a block to the standard output at once. -/
def printBlock (block : Bytes) : IO Unit := do
  let output ← IO.getStdout
  output.write (ByteArray.mk block.toArray)
  output.flush

/-- The surroundings of a session. -/
def surroundings (interrupt : Interrupt) : Surroundings IO where
  exchange := fun request => unlessInterrupted interrupt (exchange request)
  wait := fun milliseconds => do
    let waited ← unlessInterrupted interrupt (sleep (.ofNat milliseconds))
    return waited.isNone
  print := printBlock

/-- Takes turns until the session is over. -/
partial def takeTurns (interrupt : Interrupt) (plan : Plan) (c : Cursor) : IO Session.Ending := do
  match ← Session.turn (surroundings interrupt) plan c with
  | .over ending => return ending
  | .next c => takeTurns interrupt plan c

/-- Runs a session to its end.  The interrupt of the user is listened for once the cursor has been
built. -/
def runSession (line : CommandLine) (settings : Settings) : IO Session.Ending := do
  match Plan.make line settings with
  | .error error => return .error error
  | .ok plan =>
    match ← Session.begin (surroundings none) plan with
    | none => return .ok ()
    | some (.error error) => return .error (.cursor error)
    | some (.ok c) =>
      let interrupt ← (← Signal.Waiter.mk .sigint false).wait
      takeTurns (some interrupt) plan c

/-- Ends a refused call: explanations that were asked for are printed, anything else is
complained about. -/
def refuse (refusal : Refusal) : IO Unit :=
  match refusal with
  | .help => IO.print (CommandLine.usage name)
  | .version => IO.println (name ++ " " ++ version)
  | refusal => do
    IO.eprintln ("error: " ++ refusal.message)
    IO.eprint ("\n" ++ CommandLine.usage name)

end RemoteTail.Program

open RemoteTail in
/-- Runs the program. -/
def main (arguments : List String) : IO UInt32 := do
  let environment ← IO.getEnv Program.endpointVariable
  match CommandLine.parse arguments environment with
  | .error refusal =>
    Program.refuse refusal
    return refusal.exitCode.toUInt32
  | .ok line =>
    let settings := Settings.load (← Program.readSettings) environment
    let ending ← Program.runSession line settings
    match ending with
    | .ok () => pure ()
    | .error error => IO.eprintln ("Error: " ++ error.message)
    return ending.exitCode.toUInt32

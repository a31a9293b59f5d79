import RemoteTail.Session
import RemoteTail.Simulation.Service

/-!
# Simulated terminals

A terminal in front of a simulated service: what a session prints is kept, and
the script of the service may make the user interrupt.  The service listens on
plain connections only.
-/

namespace RemoteTail.Simulation

/-- A scripted reply to an HTTP request. -/
inductive HttpReply where
  /-- The request ends in the given way. -/
  | outcome (outcome : HttpOutcome)
  /-- The user interrupts and the request is never answered. -/
  | interruption
  /-- The request ends in the given way and the user interrupts as soon as the session waits. -/
  | lastOutcome (outcome : HttpOutcome)
deriving DecidableEq, Repr

/-- A terminal in front of a service. -/
structure Terminal where
  /-- The service. -/
  service : Service HttpReply
  /-- The requests so far, the last one first. -/
  requests : List HttpRequest := []
  /-- What has been printed, the last block first. -/
  printed : List Bytes := []
  /-- Whether the user has interrupted. -/
  interrupted : Bool := false

namespace Terminal

/-- What an answer of the service means on the wire, and whether it makes the user interrupt. -/
def outcome : Answer HttpReply → Option HttpOutcome × Bool
  | .nothing => (none, false)
  | .refusal status => (some (.answered status (some [])), false)
  | .chunk chunk => (some (.answered .success (some chunk.encode)), false)
  | .scripted (.outcome outcome) => (some outcome, false)
  | .scripted .interruption => (none, true)
  | .scripted (.lastOutcome outcome) => (some outcome, true)

/-- Passes a request on to the service. -/
def call (request : HttpRequest) : StateM Terminal (Option HttpOutcome) := do
  let terminal ← get
  let (answer, service) := terminal.service.call request.read
  let (outcome, interrupts) := outcome answer
  set
    { terminal with
      service
      requests := request :: terminal.requests
      interrupted := terminal.interrupted || interrupts }
  return outcome

/-- Exchanges a request for its outcome.  One that needs a secured connection does not reach the
service. -/
def exchange (request : HttpRequest) : StateM Terminal (Option HttpOutcome) :=
  match request.url.scheme with
  | .http => call request
  | .https => return some .unanswered

/-- The terminal as surroundings of a session.  Waiting takes no time. -/
def surroundings : Surroundings (StateM Terminal) where
  exchange := exchange
  wait := fun _ => return (← get).interrupted
  print := fun block =>
    modify fun terminal => { terminal with printed := block :: terminal.printed }

/-- Everything that has been printed. -/
def output (terminal : Terminal) : Bytes :=
  terminal.printed.reverse.flatten

end Terminal

end RemoteTail.Simulation

import RemoteTail.Simulation.MemoryFile

/-!
# Simulated services

A service answers reads from a file in memory or from a script of replies.  It
counts and logs its calls, it can grow, fail and hang, and it fails for good
after a number of calls.
-/

namespace RemoteTail.Simulation

/-- Where the answers of a service come from; `ρ` is the type of a scripted reply. -/
inductive Source (ρ : Type) where
  /-- A file in memory. -/
  | memory (file : MemoryFile)
  /-- The replies that are still to be given. -/
  | script (replies : List ρ)

/-- A simulated service. -/
structure Service (ρ : Type) where
  /-- Where answers come from. -/
  source : Source ρ
  /-- What is appended to the file, each at the call with that number. -/
  growth : List (Nat × Bytes) := []
  /-- The status with which every call fails, if any. -/
  failing : Option Status := none
  /-- The number of calls after which every call fails, if any. -/
  callLimit : Option Nat := none
  /-- Whether calls are left unanswered. -/
  hanging : Bool := false
  /-- Number of calls so far. -/
  calls : Nat := 0
  /-- The requests so far, the last one first. -/
  log : List Request := []

/-- What a service has to say to a call; `ρ` is the type of a scripted reply. -/
inductive Answer (ρ : Type) where
  /-- The call is left unanswered. -/
  | nothing
  /-- The call fails with a status. -/
  | refusal (status : Status)
  /-- The call succeeds with a chunk. -/
  | chunk (chunk : Chunk)
  /-- The next reply of the script. -/
  | scripted (reply : ρ)

namespace Service

variable {ρ : Type}

/-- The file as it is at a call: everything that grows at that call is appended. -/
def grown (service : Service ρ) (file : MemoryFile) : MemoryFile :=
  service.growth.foldl
    (fun grown entry => if entry.1 = service.calls then grown.append entry.2 else grown) file

/-- The offset that a range asks for; a size read asks for zero. -/
def askedOffset : ReadRange → Nat
  | .size => 0
  | .bytes offset _ => offset

/-- Takes one call. -/
def call (service : Service ρ) (request : Request) : Answer ρ × Service ρ :=
  let service := { service with calls := service.calls + 1, log := request :: service.log }
  if service.hanging then (.nothing, service)
  else if service.callLimit.any (· < service.calls) then (.refusal .unavailable, service)
  else
    match service.failing, service.source with
    | some status, _ => (.refusal status, service)
    | none, .memory file =>
      let file := service.grown file
      (.chunk (file.read request.range), { service with source := .memory file })
    | none, .script [] => (.chunk ⟨[], askedOffset request.range⟩, service)
    | none, .script (reply :: replies) =>
      (.scripted reply, { service with source := .script replies })

/-- The service with its file changed. -/
def changeFile (service : Service ρ) (change : MemoryFile → MemoryFile) : Service ρ :=
  match service.source with
  | .memory file => { service with source := .memory (change file) }
  | .script _ => service

end Service

/-- A scripted reply to a read. -/
inductive ReadReply where
  /-- A failure with a status. -/
  | status (status : Status)
  /-- A failure without an answer. -/
  | transport
  /-- A body to decode. -/
  | body (body : Bytes)
  /-- A chunk; without an offset it has the one that was asked for. -/
  | chunk (data : Bytes) (offset : Option Nat)
deriving DecidableEq, Repr

/-- What a scripted reply means as the answer to a request. -/
def ReadReply.reply (range : ReadRange) : ReadReply → Reply
  | .status code => .error (.status code)
  | .transport => .error .transport
  | .body octets => Chunk.decode octets
  | .chunk data offset => .ok ⟨data, offset.getD (Service.askedOffset range)⟩

/-- What the answer of a service means to a reader. -/
def Answer.reply? (range : ReadRange) : Answer ReadReply → Option Reply
  | .nothing => none
  | .refusal status => some (.error (.status status))
  | .chunk served => some (.ok served)
  | .scripted reply => some (reply.reply range)

/-- A simulated service as an endpoint. -/
def serviceEndpoint : Endpoint (StateM (Service ReadReply)) where
  read := fun request => do
    let (answer, service) := (← get).call request
    set service
    return answer.reply? request.range

end RemoteTail.Simulation

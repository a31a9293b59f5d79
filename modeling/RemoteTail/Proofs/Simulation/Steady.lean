import RemoteTail.Proofs.Simulation.Growth

/-!
# Steady services

A service is steady if its file grows only when it is told to, and if it does not
give out after some number of calls.  Whether it answers, refuses or ignores its
calls is open; it can be told that too, with a `Treatment`.

A call to a steady service is counted and logged, and changes nothing else
(`Steady.read`).  So what it answers depends on the file and on the treatment
alone.
-/

namespace RemoteTail.Simulation

/-- What a service does with its calls. -/
inductive Treatment where
  /-- They are answered from the file. -/
  | answered
  /-- They fail with a status. -/
  | refused (status : Status)
  /-- They are left unanswered. -/
  | ignored

/-- What a read of a file means to a reader if the service treats its calls so. -/
def Treatment.reply? (file : MemoryFile) (range : ReadRange) : Treatment → Option Reply
  | .answered => some (.ok (file.read range))
  | .refused status => some (.error (.status status))
  | .ignored => none

namespace Service

variable {ρ : Type}

/-- The service, told how to treat its calls. -/
def treating (service : Service ρ) : Treatment → Service ρ
  | .answered => { service with failing := none, hanging := false }
  | .refused status => { service with failing := some status, hanging := false }
  | .ignored => { service with hanging := true }

/-- The service with a call counted and logged. -/
def called (service : Service ρ) (request : Request) : Service ρ :=
  { service with calls := service.calls + 1, log := request :: service.log }

/-- How the service treats its calls. -/
def treatment (service : Service ρ) : Treatment :=
  if service.hanging then .ignored
  else
    match service.failing with
    | some status => .refused status
    | none => .answered

@[simp]
theorem treatment_treating (service : Service ρ) (treatment : Treatment) :
    (service.treating treatment).treatment = treatment := by
  cases treatment <;> rfl

theorem treatment_changeFile (service : Service ρ) (change : MemoryFile → MemoryFile) :
    (service.changeFile change).treatment = service.treatment := by
  rw [changeFile]
  cases service.source <;> rfl

/-- The service has a file in memory that does not grow by itself, and no bound on its calls. -/
structure Steady (service : Service ρ) (file : MemoryFile) : Prop where
  source_eq : service.source = .memory file
  growth_eq : service.growth = []
  callLimit_eq : service.callLimit = none

namespace Steady

variable {service : Service ρ} {file : MemoryFile}

theorem treating (steady : service.Steady file) (treatment : Treatment) :
    (service.treating treatment).Steady file := by
  cases treatment with
  | answered => exact ⟨steady.source_eq, steady.growth_eq, steady.callLimit_eq⟩
  | refused status => exact ⟨steady.source_eq, steady.growth_eq, steady.callLimit_eq⟩
  | ignored => exact ⟨steady.source_eq, steady.growth_eq, steady.callLimit_eq⟩

theorem called (steady : service.Steady file) (request : Request) :
    (service.called request).Steady file where
  source_eq := steady.source_eq
  growth_eq := steady.growth_eq
  callLimit_eq := steady.callLimit_eq

theorem append (steady : service.Steady file) (more : Bytes) :
    (service.changeFile (·.append more)).Steady (file.append more) := by
  rw [changeFile, steady.source_eq]
  exact ⟨rfl, steady.growth_eq, steady.callLimit_eq⟩

/-- A call is treated as the service treats its calls, and then only counted and logged. -/
theorem read {service : Service ReadReply} {file : MemoryFile} (steady : service.Steady file)
    (request : Request) :
    (serviceEndpoint.read request).run service =
      (service.treatment.reply? file request.range, service.called request) := by
  rcases service with ⟨source, growth, failing, callLimit, hanging, calls, log⟩
  obtain ⟨rfl, rfl, rfl⟩ := steady
  cases hanging with
  | true => rfl
  | false =>
      cases failing with
      | some status => rfl
      | none => rfl

/-- A steady service that answers its calls serves its file. -/
theorem serves (steady : service.Steady file) (uncapped : file.cap = none)
    (readable : file.Readable) : (service.treating .answered).Serves file where
  source_eq := steady.source_eq
  failing_eq := rfl
  callLimit_eq := steady.callLimit_eq
  hanging_eq := rfl
  cap_eq := uncapped
  readable := readable
  growth_text := by
    intro _ entry member
    have listed : entry ∈ service.growth := member
    rw [steady.growth_eq] at listed
    cases listed

end Steady

end Service

end RemoteTail.Simulation

import RemoteTail.Proofs.Simulation.Read
import RemoteTail.Simulation.Service

/-!
# Growing files in a service

A service with a file in memory appends what is due at a call and then answers
from the file as it is.  A service `Serves` a file if it does nothing else: it
neither fails nor hangs, and its answers are neither capped nor cut in the middle
of a character.

A call to a serving service is always answered, with a read of the file as the
call finds it (`Serves.read`), and leaves a service that serves that file.  Since
all growth is listed, there is a bound on the size that the file will ever have
(`horizon`), which no call changes.
-/

namespace RemoteTail.Simulation

namespace MemoryFile

@[simp]
theorem append_nil (file : MemoryFile) : file.append [] = file := by
  simp [append]

@[simp]
theorem append_append (file : MemoryFile) (first second : Bytes) :
    (file.append first).append second = file.append (first ++ second) := by
  simp only [append, ← Array.toList_inj, MemoryFile.mk.injEq]
  simp

@[simp]
theorem size_append (file : MemoryFile) (more : Bytes) :
    (file.append more).size = file.size + more.length := by
  rw [← length_bytes, bytes_append, List.length_append, length_bytes]

theorem bytes_prefix_append (file : MemoryFile) (more : Bytes) :
    file.bytes <+: (file.append more).bytes := by
  rw [bytes_append]
  exact List.prefix_append ..

end MemoryFile

namespace Service

variable {ρ : Type}

/-- What is appended at the call with the given number. -/
def due (service : Service ρ) (call : Nat) : Bytes :=
  (service.growth.filter (·.1 = call)).flatMap (·.2)

theorem grown_eq (service : Service ρ) (file : MemoryFile) :
    service.grown file = file.append (service.due service.calls) := by
  unfold grown due
  induction service.growth generalizing file with
  | nil => simp
  | cons entry growth ih =>
      rw [List.foldl_cons, ih, List.filter_cons]
      by_cases now : entry.1 = service.calls <;> simp [now]

/-- The file as the next call finds it. -/
def ahead (service : Service ρ) (file : MemoryFile) : MemoryFile :=
  file.append (service.due (service.calls + 1))

theorem bytes_prefix_ahead (service : Service ρ) (file : MemoryFile) :
    file.bytes <+: (service.ahead file).bytes :=
  file.bytes_prefix_append _

/-- Without growth, the next call finds the file as it is. -/
theorem ahead_eq_self {service : Service ρ} (still : service.growth = []) (file : MemoryFile) :
    service.ahead file = file := by
  simp [ahead, due, still]

/-- The size that the file will have when everything listed has been appended. -/
def horizon (service : Service ρ) (file : MemoryFile) : Nat :=
  file.size + ((service.growth.filter (service.calls < ·.1)).flatMap (·.2)).length

theorem size_le_horizon (service : Service ρ) (file : MemoryFile) :
    file.size ≤ service.horizon file :=
  Nat.le_add_right ..

/-- The service after a call that it has answered from a file. -/
def answered (service : Service ρ) (request : Request) (file : MemoryFile) : Service ρ :=
  { service with
    calls := service.calls + 1
    log := request :: service.log
    source := .memory file }

/-- What is due at the next call is part of what is still to come. -/
theorem length_due_add (growth : List (Nat × Bytes)) (calls : Nat) :
    ((growth.filter (·.1 = calls + 1)).flatMap (·.2)).length +
      ((growth.filter (calls + 1 < ·.1)).flatMap (·.2)).length =
        ((growth.filter (calls < ·.1)).flatMap (·.2)).length := by
  induction growth with
  | nil => rfl
  | cons entry growth ih =>
      simp only [List.filter_cons, decide_eq_true_eq]
      by_cases now : entry.1 = calls + 1
      · have later : calls < entry.1 := by omega
        have not_after : ¬ calls + 1 < entry.1 := by omega
        rw [if_pos now, if_pos later, if_neg not_after, List.flatMap_cons, List.flatMap_cons,
          List.length_append, List.length_append, ← ih, Nat.add_assoc]
      · by_cases after : calls + 1 < entry.1
        · have later : calls < entry.1 := by omega
          rw [if_neg now, if_pos later, if_pos after, List.flatMap_cons, List.flatMap_cons,
            List.length_append, List.length_append, ← ih]
          omega
        · have not_later : ¬ calls < entry.1 := by omega
          rw [if_neg now, if_neg not_later, if_neg after]
          exact ih

theorem horizon_answered (service : Service ρ) (request : Request) (file : MemoryFile) :
    (service.answered request (service.ahead file)).horizon (service.ahead file) =
      service.horizon file := by
  have split := length_due_add service.growth service.calls
  simp only [horizon, answered, ahead, due, MemoryFile.size_append, Nat.add_assoc]
  exact congrArg (file.size + ·) split

/-- The service answers every call from a file in memory, without a cap.  A file that keeps windows
on character boundaries holds text, and text is all that it grows by. -/
structure Serves (service : Service ρ) (file : MemoryFile) : Prop where
  source_eq : service.source = .memory file
  failing_eq : service.failing = none
  callLimit_eq : service.callLimit = none
  hanging_eq : service.hanging = false
  cap_eq : file.cap = none
  readable : file.Readable
  growth_text : file.charAligned = true → ∀ entry ∈ service.growth, Utf8.IsText entry.2

variable {service : Service ρ} {file : MemoryFile}

/-- A service that has only its file serves it. -/
theorem serves_memory (uncapped : file.cap = none) (readable : file.Readable) :
    ({ source := .memory file } : Service ρ).Serves file where
  source_eq := rfl
  failing_eq := rfl
  callLimit_eq := rfl
  hanging_eq := rfl
  cap_eq := uncapped
  readable := readable
  growth_text := by
    intro _ entry member
    cases member

/-- What is due at a call is text if all growth is. -/
theorem Serves.due_text (serves : service.Serves file) (aligned : file.charAligned = true)
    (call : Nat) : Utf8.IsText (service.due call) := by
  apply Utf8.IsText.flatMap
  intro entry member
  exact serves.growth_text aligned entry (List.mem_of_mem_filter member)

theorem Serves.answered (serves : service.Serves file) (request : Request) :
    (service.answered request (service.ahead file)).Serves (service.ahead file) where
  source_eq := rfl
  failing_eq := serves.failing_eq
  callLimit_eq := serves.callLimit_eq
  hanging_eq := serves.hanging_eq
  cap_eq := serves.cap_eq
  readable := by
    intro aligned
    rw [ahead, MemoryFile.bytes_append]
    exact (serves.readable aligned).append (serves.due_text aligned _)
  growth_text := serves.growth_text

theorem Serves.call (serves : service.Serves file) (request : Request) :
    service.call request =
      (.chunk ((service.ahead file).read request.range),
        service.answered request (service.ahead file)) := by
  rcases service with ⟨source, growth, failing, callLimit, hanging, calls, log⟩
  obtain ⟨rfl, rfl, rfl, rfl, _⟩ := serves
  simp only [Service.call, Bool.false_eq_true, if_false, Option.any_none, grown_eq]
  rfl

/-- Every call is answered with a read of the file as the call finds it. -/
theorem Serves.read {service : Service ReadReply} {file : MemoryFile}
    (serves : service.Serves file) (request : Request) :
    (serviceEndpoint.read request).run service =
      (some (.ok ((service.ahead file).read request.range)),
        service.answered request (service.ahead file)) := by
  have answer : (serviceEndpoint.read request).run service =
      ((service.call request).1.reply? request.range, (service.call request).2) := rfl
  rw [answer, serves.call]
  rfl

end Service

end RemoteTail.Simulation

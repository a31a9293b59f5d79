import RemoteTail.Proofs.Cursor.GrowingFile
import RemoteTail.Proofs.Simulation.Growth
import RemoteTail.Proofs.Simulation.Read

/-!
# Plain services

A service with a plain file in memory is an endpoint in front of a file that
only grows, with whatever cap, and whether or not it fails or hangs.
-/

namespace RemoteTail.Simulation

namespace Service

/-- The octets of the file of a service; a script has none. -/
def content {ρ : Type} (service : Service ρ) : Bytes :=
  match service.source with
  | .memory file => file.bytes
  | .script _ => []

theorem content_of_memory {ρ : Type} {service : Service ρ} {file : MemoryFile}
    (source : service.source = .memory file) : service.content = file.bytes := by
  rw [content, source]

/-- The service has a plain file in memory. -/
def IsPlain {ρ : Type} (service : Service ρ) : Prop :=
  ∃ file, service.source = .memory file ∧ file.charAligned = false

/-- A call to a service with a plain file leaves one, and answers from it if it answers. -/
theorem call_cases {ρ : Type} {service service' : Service ρ} {answer : Answer ρ} {file : MemoryFile}
    (source : service.source = .memory file) {request : Request}
    (called : service.call request = (answer, service')) :
    (service'.source = .memory file ∧ (answer = .nothing ∨ ∃ status, answer = .refusal status)) ∨
      (service'.source = .memory (service.ahead file) ∧
        answer = .chunk ((service.ahead file).read request.range)) := by
  rcases service with ⟨_, growth, failing, callLimit, hanging, calls, log⟩
  obtain rfl : _ = Source.memory file := source
  simp only [Service.call, grown_eq] at called
  by_cases hangs : hanging = true
  · rw [if_pos hangs] at called
    cases called
    exact .inl ⟨rfl, .inl rfl⟩
  · rw [if_neg hangs] at called
    by_cases exhausted : callLimit.any (· < calls + 1) = true
    · rw [if_pos exhausted] at called
      cases called
      exact .inl ⟨rfl, .inr ⟨_, rfl⟩⟩
    · rw [if_neg exhausted] at called
      cases failing with
      | some status =>
          cases called
          exact .inl ⟨rfl, .inr ⟨_, rfl⟩⟩
      | none =>
          cases called
          exact .inr ⟨rfl, rfl⟩

/-- A read of a service with a file in memory either gives no chunk and leaves the file, or gives a
chunk of the file as the read finds it. -/
theorem read_cases {service service' : Service ReadReply} {file : MemoryFile}
    (source : service.source = .memory file) {request : Request} {reply : Option Reply}
    (answered : (serviceEndpoint.read request).run service = (reply, service')) :
    (service'.source = .memory file ∧ ∀ chunk, reply ≠ some (.ok chunk)) ∨
      (service'.source = .memory (service.ahead file) ∧
        reply = some (.ok ((service.ahead file).read request.range))) := by
  obtain ⟨reply_eq, rfl⟩ := Prod.mk.inj answered
  change (service.call request).1.reply? request.range = reply at reply_eq
  rcases call_cases source (show service.call request =
      ((service.call request).1, (service.call request).2) from rfl) with
    ⟨kept, silent | ⟨status, refused⟩⟩ | ⟨grown, served⟩
  · refine .inl ⟨kept, ?_⟩
    rintro chunk rfl
    rw [silent] at reply_eq
    cases reply_eq
  · refine .inl ⟨kept, ?_⟩
    rintro chunk rfl
    rw [refused] at reply_eq
    cases reply_eq
  · refine .inr ⟨grown, ?_⟩
    rw [← reply_eq, served]
    rfl

end Service

/-- A simulated service with a plain file, as an endpoint in front of a file that only grows. -/
def plainService : GrowingFile (Service ReadReply) where
  endpoint := serviceEndpoint
  Serving := Service.IsPlain
  content := Service.content
  serving_read := by
    rintro service ⟨file, source, plain⟩ request
    rcases answered : (serviceEndpoint.read request).run service with ⟨reply, service'⟩
    rcases Service.read_cases source answered with ⟨kept, _⟩ | ⟨grown, _⟩
    · exact ⟨file, kept, plain⟩
    · exact ⟨service.ahead file, grown, plain⟩
  content_read := by
    rintro service ⟨file, source, plain⟩ request
    rcases answered : (serviceEndpoint.read request).run service with ⟨reply, service'⟩
    rcases Service.read_cases source answered with ⟨kept, _⟩ | ⟨grown, _⟩
    · have same : service.content = service'.content := by
        rw [Service.content_of_memory source, Service.content_of_memory kept]
      exact same ▸ List.prefix_refl _
    · rw [Service.content_of_memory source, Service.content_of_memory grown]
      exact service.bytes_prefix_ahead file
  size_read := by
    rintro service service' ⟨file, source, plain⟩ remote chunk answered
    rcases Service.read_cases source answered with ⟨_, failed⟩ | ⟨grown, served⟩
    · exact absurd rfl (failed chunk)
    · cases served
      rw [Service.content_of_memory grown, MemoryFile.length_bytes]
      rfl
  window_read := by
    rintro service service' ⟨file, source, plain⟩ remote offset length chunk answered
    rcases Service.read_cases source answered with ⟨_, failed⟩ | ⟨grown, served⟩
    · exact absurd rfl (failed chunk)
    · have plain_ahead : (service.ahead file).charAligned = false := plain
      cases served
      rw [Service.content_of_memory grown, MemoryFile.read_plain plain_ahead]
      exact ⟨rfl, _, Nat.min_le_left .., rfl⟩

end RemoteTail.Simulation

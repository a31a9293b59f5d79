import RemoteTail.Proofs.Tail.Window

/-!
# Runs of the tail search

The search in a world, step by step: what it does with the answer to one read.
-/

namespace RemoteTail

variable {σ : Type}

namespace RemoteFile

theorem fileSize_run (file : RemoteFile) (endpoint : Endpoint (StateM σ)) (world : σ) :
    (file.fileSize endpoint).run world =
      (((endpoint.read ⟨file, .size⟩).run world).1.map fun answered =>
          answered.map Chunk.offset,
        ((endpoint.read ⟨file, .size⟩).run world).2) :=
  rfl

end RemoteFile

namespace TailSearch

variable {endpoint : Endpoint (StateM σ)} {file : RemoteFile} {wanted chunkSize : Nat}

theorem searchBack_zero (budget met : Nat) :
    searchBack endpoint file wanted chunkSize budget 0 met = pure (some (.ok 0)) := by
  cases budget <;> rfl

/-- One window: what is still outstanding or has failed ends the search, and a chunk either has the
terminator that is wanted or takes the search to the window before. -/
theorem searchBack_run (budget stop met : Nat) (world : σ) :
    (searchBack endpoint file wanted chunkSize (budget + 1) (stop + 1) met).run world =
      match (file.fetch endpoint (stop + 1 - chunkSize)
          (stop + 1 - (stop + 1 - chunkSize))).run world with
      | (none, world) => (none, world)
      | (some (.error error), world) => (some (.error error), world)
      | (some (.ok chunk), world) =>
          match scanWindow wanted (chunk.offset + chunk.data.length) met
              (split chunk.data 0 .backward).lines with
          | .inl offset => (some (.ok offset), world)
          | .inr met =>
              (searchBack endpoint file wanted chunkSize budget (stop + 1 - chunkSize) met).run
                world := by
  rw [searchBack, StateT.run_bind]
  rcases (file.fetch endpoint (stop + 1 - chunkSize)
    (stop + 1 - (stop + 1 - chunkSize))).run world with ⟨_ | error | chunk, world⟩
  · rfl
  · rfl
  · change StateT.run (match scanWindow wanted (chunk.offset + chunk.data.length) met
      (split chunk.data 0 .backward).lines with
      | .inl offset => pure (some (.ok offset))
      | .inr met => searchBack endpoint file wanted chunkSize budget (stop + 1 - chunkSize) met)
      world = _
    cases found : scanWindow wanted (chunk.offset + chunk.data.length) met
      (split chunk.data 0 .backward).lines with
    | inl offset =>
        simp only [found]
        rfl
    | inr met =>
        simp only [found]

/-- The budget of the search covers the file. -/
theorem covered {chunkSize : Nat} (positive : 0 < chunkSize) (size patience : Nat) :
    size ≤ (size / chunkSize + 1 + patience) * chunkSize := by
  have whole_windows := Nat.lt_div_mul_add positive (a := size)
  rw [Nat.add_mul, Nat.add_mul, Nat.one_mul]
  omega

end TailSearch

namespace RemoteFile

/-- The search begins at the size that is reported. -/
theorem locateTail_run (file : RemoteFile) (endpoint : Endpoint (StateM σ))
    (wanted chunkSize patience : Nat) (world : σ) :
    (file.locateTail endpoint wanted chunkSize patience).run world =
      match (endpoint.read ⟨file, .size⟩).run world with
      | (none, world) => (none, world)
      | (some (.error error), world) => (some (.error error), world)
      | (some (.ok chunk), world) =>
          if wanted = 0 then (some (.ok chunk.offset), world)
          else
            (TailSearch.searchBack endpoint file wanted chunkSize
              (chunk.offset / chunkSize + 1 + patience) chunk.offset 0).run world := by
  rw [locateTail, StateT.run_bind, fileSize_run]
  rcases (endpoint.read ⟨file, .size⟩).run world with ⟨_ | error | chunk, world⟩
  · rfl
  · rfl
  · by_cases everything : wanted = 0
    · simp only [everything]
      rfl
    · simp only [everything]
      rfl

end RemoteFile

end RemoteTail

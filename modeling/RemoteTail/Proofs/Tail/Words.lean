import RemoteTail.Proofs.Line.Words
import RemoteTail.Proofs.Tail.Search

/-!
# The tail search in machine words

Positions and counts are machine words.  The functions here do what the search
does, operation by operation, and give nothing as soon as a sum does not fit into
a word or a difference is negative.  A window that ends within the words is
scanned without that: the spans of its lines together are no longer than its data,
so no difference is negative, and every sum is a position in the window or right
after it (`scanChunk?_eq`).
-/

namespace RemoteTail

namespace TailSearch

/-! ## Windows -/

/-- Looking through a window, in words. -/
def scanWindow? (wanted : Nat) : (stop met : Nat) → List Line → Option (Nat ⊕ Nat)
  | _, met, [] => some (.inr met)
  | stop, met, line :: lines => do
    let span ← line.span?
    let terminator ← Word.sub? stop span
    if met = wanted then
      let offset ← Word.add? terminator 1
      some (.inl offset)
    else
      let met ← Word.add? met 1
      scanWindow? wanted terminator met lines

/-- Looking through the window of an answer, in words. -/
def scanChunk? (wanted met : Nat) (chunk : Chunk) : Option (Nat ⊕ Nat) := do
  let reversed ← split? chunk.data 0 .backward
  let stop ← Word.add? chunk.offset chunk.data.length
  scanWindow? wanted stop met reversed.lines

/-- Lines that fit between zero and `stop` are looked through in words. -/
theorem scanWindow?_eq {wanted stop met base : Nat} {messages : List Bytes}
    (pending : met ≤ wanted) (fits : wanted < 2 ^ 64) (within : stop < 2 ^ 64)
    (room : (join messages).length ≤ stop) :
    scanWindow? wanted stop met (layLines base messages) =
      some (scanWindow wanted stop met (layLines base messages)) := by
  induction messages generalizing stop met base with
  | nil => rfl
  | cons message messages ih =>
      rw [length_join_cons] at room
      have span_eq : Line.span? ⟨message, base, true⟩ = some (message.length + 1) :=
        Word.add?_eq (show message.length + 1 < 2 ^ 64 by omega)
      have span_eq' : Line.span ⟨message, base, true⟩ = message.length + 1 := rfl
      rw [layLines, scanWindow?, scanWindow, span_eq, span_eq']
      simp only [Option.bind_eq_bind, Option.bind_some]
      rw [Word.sub?_eq (by omega), Option.bind_some]
      by_cases last : met = wanted
      · rw [if_pos last, if_pos last, Word.add?_eq (by omega), Option.bind_some]
      · rw [if_neg last, if_neg last, Word.add?_eq (by omega), Option.bind_some]
        exact ih (by omega) (by omega) (by omega)

/-- A window that ends within the words is looked through in words. -/
theorem scanChunk?_eq {wanted met : Nat} {chunk : Chunk} (pending : met ≤ wanted)
    (fits : wanted < 2 ^ 64) (within : chunk.offset + chunk.data.length < 2 ^ 64) :
    scanChunk? wanted met chunk =
      some (scanWindow wanted (chunk.offset + chunk.data.length) met
        (split chunk.data 0 .backward).lines) := by
  have whole := length_join_cut .backward chunk.data
  rw [scanChunk?, split?_eq (by omega), Word.add?_eq within]
  exact scanWindow?_eq pending fits within (by omega)

/-! ## Searches -/

variable {m : Type → Type} [Monad m]

/-- The search from `stop` back to the beginning of the file, in words. -/
def searchBack? (endpoint : Endpoint m) (file : RemoteFile) (wanted chunkSize : Nat) :
    (budget stop met : Nat) → m (Option (Option (Except FetchError Nat)))
  | _, 0, _ => return some (some (.ok 0))
  | 0, _ + 1, _ => return some none
  | budget + 1, stop + 1, met => do
    let start := stop + 1 - chunkSize
    match Word.sub? (stop + 1) start with
    | none => return none
    | some length =>
      match ← file.fetch endpoint start length with
      | none => return some none
      | some (.error error) => return some (some (.error error))
      | some (.ok chunk) =>
        match scanChunk? wanted met chunk with
        | none => return none
        | some (.inl offset) => return some (some (.ok offset))
        | some (.inr met) => searchBack? endpoint file wanted chunkSize budget start met

theorem searchBack?_zero {endpoint : Endpoint m} {file : RemoteFile} {wanted chunkSize : Nat}
    (budget met : Nat) :
    searchBack? endpoint file wanted chunkSize budget 0 met = pure (some (some (.ok 0))) := by
  cases budget <;> rfl

/-- One window in words: where the plain search goes on, this one does if the window is within the
words. -/
theorem searchBack?_run {σ : Type} {endpoint : Endpoint (StateM σ)} {file : RemoteFile}
    {wanted chunkSize : Nat} (budget stop met : Nat) (world : σ) :
    (searchBack? endpoint file wanted chunkSize (budget + 1) (stop + 1) met).run world =
      match (file.fetch endpoint (stop + 1 - chunkSize)
          (stop + 1 - (stop + 1 - chunkSize))).run world with
      | (none, world) => (some none, world)
      | (some (.error error), world) => (some (some (.error error)), world)
      | (some (.ok chunk), world) =>
          match scanChunk? wanted met chunk with
          | none => (none, world)
          | some (.inl offset) => (some (some (.ok offset)), world)
          | some (.inr met) =>
              (searchBack? endpoint file wanted chunkSize budget (stop + 1 - chunkSize) met).run
                world := by
  rw [searchBack?]
  simp only [Word.sub?_eq (Nat.sub_le (stop + 1) chunkSize), StateT.run_bind]
  rcases (file.fetch endpoint (stop + 1 - chunkSize)
    (stop + 1 - (stop + 1 - chunkSize))).run world with ⟨_ | error | chunk, world⟩
  · rfl
  · rfl
  · simp only [bind]
    rcases scanChunk? wanted met chunk with _ | offset | met
    · rfl
    · rfl
    · rfl

end TailSearch

/-- The search for the tail, in words.  It gives nothing if a number is no word. -/
def RemoteFile.locateTail? {m : Type → Type} [Monad m] (file : RemoteFile) (endpoint : Endpoint m)
    (wanted chunkSize patience : Nat) : m (Option (Option (Except FetchError Nat))) := do
  match ← file.fileSize endpoint with
  | none => return some none
  | some (.error error) => return some (some (.error error))
  | some (.ok size) =>
    if wanted = 0 then return some (some (.ok size))
    else
      TailSearch.searchBack? endpoint file wanted chunkSize (size / chunkSize + 1 + patience) size 0

/-- In words, the search begins at the size that is reported. -/
theorem RemoteFile.locateTail?_run {σ : Type} (file : RemoteFile) (endpoint : Endpoint (StateM σ))
    (wanted chunkSize patience : Nat) (world : σ) :
    (file.locateTail? endpoint wanted chunkSize patience).run world =
      match (endpoint.read ⟨file, .size⟩).run world with
      | (none, world) => (some none, world)
      | (some (.error error), world) => (some (some (.error error)), world)
      | (some (.ok chunk), world) =>
          if wanted = 0 then (some (some (.ok chunk.offset)), world)
          else
            (TailSearch.searchBack? endpoint file wanted chunkSize
              (chunk.offset / chunkSize + 1 + patience) chunk.offset 0).run world := by
  rw [locateTail?, StateT.run_bind, fileSize_run]
  rcases (endpoint.read ⟨file, .size⟩).run world with ⟨_ | error | chunk, world⟩
  · rfl
  · rfl
  · by_cases everything : wanted = 0
    · simp only [everything]
      rfl
    · simp only [everything]
      rfl

end RemoteTail

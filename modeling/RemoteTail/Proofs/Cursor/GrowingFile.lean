import RemoteTail.Proofs.Cursor.Start
import RemoteTail.Proofs.Cursor.Tracks

/-!
# Files that only grow

A `GrowingFile` is an endpoint in front of one file.  Its worlds say what the
file holds and whether the endpoint serves it: a request may find the file
longer than before and never otherwise changed, a size read is answered with the
true size, and a window is answered with a beginning of what the file holds
there.  How long that beginning is, whether a request fails and whether it is
answered at all is left open at every request.

A search in such a file stays inside it (`locateTail_advances`), and a pull keeps
track of it (`takeLine_tracks`).
-/

namespace RemoteTail

/-- An endpoint in front of a file that only grows. -/
structure GrowingFile (σ : Type) where
  /-- Answers the requests. -/
  endpoint : Endpoint (StateM σ)
  /-- Whether the endpoint serves the file. -/
  Serving : σ → Prop
  /-- The octets of the file. -/
  content : σ → Bytes
  serving_read : ∀ {world : σ}, Serving world → ∀ request,
    Serving ((endpoint.read request).run world).2
  content_read : ∀ {world : σ}, Serving world → ∀ request,
    content world <+: content ((endpoint.read request).run world).2
  size_read : ∀ {world world' : σ}, Serving world → ∀ {file chunk},
    (endpoint.read ⟨file, .size⟩).run world = (some (.ok chunk), world') →
      chunk.offset = (content world').length
  window_read : ∀ {world world' : σ}, Serving world → ∀ {file offset length chunk},
    (endpoint.read ⟨file, .bytes offset length⟩).run world = (some (.ok chunk), world') →
      chunk.offset = offset ∧
        ∃ count ≤ length, chunk.data = (content world').slice offset (offset + count)

namespace GrowingFile

variable {σ : Type} (file : GrowingFile σ)

/-- The file is still served and has at most grown. -/
structure Advances (world world' : σ) : Prop where
  serving : file.Serving world'
  grows : file.content world <+: file.content world'

variable {file} {world world' world'' : σ}

theorem Advances.refl (serving : file.Serving world) : file.Advances world world where
  serving := serving
  grows := List.prefix_refl _

theorem Advances.trans (first : file.Advances world world')
    (second : file.Advances world' world'') : file.Advances world world'' where
  serving := second.serving
  grows := first.grows.trans second.grows

theorem Advances.of_read (serving : file.Serving world) {request : Request}
    {reply : Option Reply} (answered : (file.endpoint.read request).run world = (reply, world')) :
    file.Advances world world' where
  serving := by
    have kept := file.serving_read serving request
    rwa [answered] at kept
  grows := by
    have kept := file.content_read serving request
    rwa [answered] at kept

/-! ## The search for the tail -/

/-- The terminators of a chunk of the file are terminators of the file. -/
theorem terminator_lt_length {content : Bytes} {chunk : Chunk} {count terminator : Nat}
    (shown : chunk.data = content.slice chunk.offset (chunk.offset + count))
    (member : terminator ∈ chunk.terminators) : terminator < content.length := by
  obtain ⟨index, found, rfl⟩ := List.mem_map.mp member
  rw [Bytes.mem_terminators_iff] at found
  have inside := (List.getElem?_eq_some_iff.mp found).1
  rw [shown, Bytes.length_slice] at inside
  omega

theorem searchBack_advances {remote : RemoteFile} {wanted chunkSize budget stop met offset : Nat}
    (serving : file.Serving world) (pending : met ≤ wanted)
    (located : (TailSearch.searchBack file.endpoint remote wanted chunkSize budget stop met).run
      world = (some (.ok offset), world')) :
    file.Advances world world' ∧ offset ≤ (file.content world').length := by
  induction budget generalizing stop met world with
  | zero =>
      cases stop with
      | zero =>
          cases located
          exact ⟨.refl serving, Nat.zero_le _⟩
      | succ stop => cases located
  | succ budget ih =>
      cases stop with
      | zero =>
          cases located
          exact ⟨.refl serving, Nat.zero_le _⟩
      | succ stop =>
          rw [TailSearch.searchBack_run] at located
          rcases answered : (remote.fetch file.endpoint (stop + 1 - chunkSize)
            (stop + 1 - (stop + 1 - chunkSize))).run world with ⟨_ | _ | chunk, between⟩
          · rw [answered] at located
            cases located
          · rw [answered] at located
            cases located
          · have advances := Advances.of_read serving answered
            obtain ⟨offset_eq, count, _, shown⟩ := file.window_read serving answered
            rw [answered] at located
            simp only [TailSearch.scanWindow_split pending] at located
            cases found : chunk.terminators.reverse[wanted - met]? with
            | some terminator =>
                rw [found] at located
                cases located
                rw [← offset_eq] at shown
                have member := List.mem_reverse.mp (List.mem_of_getElem? found)
                exact ⟨advances, terminator_lt_length shown member⟩
            | none =>
                rw [found] at located
                have few := List.getElem?_eq_none_iff.mp found
                rw [List.length_reverse] at few
                obtain ⟨further, inside⟩ := ih advances.serving (by omega) located
                exact ⟨advances.trans further, inside⟩

/-- The search for the tail finds an offset inside the file. -/
theorem locateTail_advances {remote : RemoteFile} {wanted chunkSize patience offset : Nat}
    (serving : file.Serving world)
    (located : (remote.locateTail file.endpoint wanted chunkSize patience).run world =
      (some (.ok offset), world')) :
    file.Advances world world' ∧ offset ≤ (file.content world').length := by
  rw [RemoteFile.locateTail_run] at located
  rcases answered : (file.endpoint.read ⟨remote, .size⟩).run world with ⟨_ | _ | chunk, between⟩
  · rw [answered] at located
    cases located
  · rw [answered] at located
    cases located
  · have advances := Advances.of_read serving answered
    have size_eq := file.size_read serving answered
    rw [answered] at located
    by_cases everything : wanted = 0
    · simp only [everything, if_true] at located
      cases located
      exact ⟨advances, Nat.le_of_eq size_eq⟩
    · simp only [everything, if_false] at located
      obtain ⟨further, inside⟩ := searchBack_advances advances.serving (Nat.zero_le _) located
      exact ⟨advances.trans further, inside⟩

/-! ## Cursors on the file -/

theorem start_advances {coordinates : TaskCoordinates} {name : String} {formatter : Formatter}
    {config : ReadConfig} {c : Cursor} (serving : file.Serving world)
    (started : (Cursor.start file.endpoint coordinates name formatter config).run world =
      (some (.ok c), world')) :
    file.Advances world world' ∧ c.offset ≤ (file.content world').length ∧
      c.Tracks (file.content world') c.offset [] := by
  obtain ⟨sound, offset, rfl, begins⟩ := Cursor.start_cases started
  obtain ⟨_, positive⟩ := Cursor.positive_of_validate (Cursor.validate_of_checked sound)
  have tracks := Cursor.Tracks.initial (file.content world')
    (c := Cursor.fresh coordinates name formatter config offset) rfl rfl positive
  rcases begins with ⟨rfl, rfl⟩ | located
  · exact ⟨.refl serving, Nat.zero_le _, tracks⟩
  · obtain ⟨advances, inside⟩ := locateTail_advances serving located
    exact ⟨advances, inside, tracks⟩

/-- Whatever comes of a pull, it makes one read at most. -/
theorem takeLine_advances (serving : file.Serving world) (c : Cursor) :
    file.Advances world ((c.takeLine file.endpoint).run world).2 := by
  cases limited : c.limitReached with
  | true =>
      rw [Cursor.takeLine_run_of_limitReached limited]
      exact .refl serving
  | false =>
      by_cases unread : c.buffer = []
      · rw [Cursor.takeLine_run_of_buffer_nil limited unread]
        exact .of_read serving rfl
      · rw [Cursor.takeLine_run_of_buffer_ne_nil limited unread]
        exact .refl serving

/-- A pull keeps track of the file whatever its read has been answered. -/
theorem takeLine_tracks {c next : Cursor} {taking : Taking} {start : Nat} {lines : List Line}
    (serving : file.Serving world)
    (tracks : c.Tracks (file.content world) start lines)
    (taken : (c.takeLine file.endpoint).run world = (some (taking, next), world')) :
    next.Tracks (file.content world') start (lines ++ taking.lines) := by
  have advances := takeLine_advances serving c
  rw [taken] at advances
  apply tracks.takeLine taken
  · intro _
    exact advances.grows
  · intro reply answered
    constructor
    · exact advances.grows
    · rintro chunk rfl
      obtain ⟨_, count, _, shown⟩ := file.window_read serving answered
      exact ⟨_, shown⟩

theorem pull_advances (serving : file.Serving world) (c : Cursor) :
    file.Advances world ((c.pull file.endpoint).run world).2 := by
  rw [Cursor.pull_run]
  exact takeLine_advances serving c

end GrowingFile

end RemoteTail

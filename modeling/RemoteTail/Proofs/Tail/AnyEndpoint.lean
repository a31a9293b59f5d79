import RemoteTail.Proofs.Json.Record
import RemoteTail.Proofs.Remote.Exchange
import RemoteTail.Proofs.Tail.Requests
import RemoteTail.Proofs.Tail.Words
import RemoteTail.Remote.Http

/-!
# The tail search before any endpoint

An endpoint may answer a read with anything: an error, or data and an offset that
have nothing to do with each other, with the request or with what has been answered
before.  The search comes to an end all the same, no later than the reported size
demands.  It stops at the first error and hands it on, it computes within machine
words, and what it finds is the position after a terminator that it has been shown
(`locateTail_answers`).
-/

namespace RemoteTail

open Bytes

variable {σ : Type}

/-! ## Endpoints -/

namespace Endpoint

/-- Every read is answered, with an error or with a chunk of fewer than 2⁶³ octets at a position
below 2⁶³. -/
def Answers (endpoint : Endpoint (StateM σ)) : Prop :=
  ∀ request world, ∃ reply world', (endpoint.read request).run world = (some reply, world') ∧
    ∀ chunk, reply = .ok chunk → chunk.offset < 2 ^ 63 ∧ chunk.data.length < 2 ^ 63

end Endpoint

/-- A chunk that has come over HTTP has an offset below 2⁶³. -/
theorem HttpOutcome.offset_lt_of_reply {outcome : HttpOutcome} {chunk : Chunk}
    (reply_eq : outcome.reply = .ok chunk) : chunk.offset < 2 ^ 63 := by
  cases outcome with
  | unanswered => cases reply_eq
  | answered status body =>
      simp only [reply] at reply_eq
      split at reply_eq
      · cases reply_eq
      · split at reply_eq
        · cases body with
          | none => cases reply_eq
          | some octets => exact Chunk.offset_lt_of_decode reply_eq
        · cases reply_eq

/-- An endpoint behind a URL answers its reads if every exchange comes to an end and no data are too
long. -/
theorem Url.endpoint_answers (url : Url) {exchange : HttpRequest → StateM σ HttpOutcome}
    (short : ∀ request world chunk, ((exchange request).run world).1.reply = .ok chunk →
      chunk.data.length < 2 ^ 63) :
    (url.endpoint fun request => some <$> exchange request).Answers := by
  intro request world
  cases url with
  | other scheme => exact ⟨_, _, rfl, nofun⟩
  | http url =>
      simp only [Url.endpoint]
      split
      · exact ⟨_, _, rfl, fun chunk reply_eq =>
          ⟨HttpOutcome.offset_lt_of_reply reply_eq, short _ _ chunk reply_eq⟩⟩
      · exact ⟨_, _, rfl, nofun⟩

/-- After an error nothing more is read, and the error is the result. -/
def StopsAtError (exchanges : List Exchange) (result : Except FetchError Nat) : Prop :=
  ∀ earlier failed later error, exchanges = earlier ++ failed :: later →
    failed.reply = some (.error error) → later = [] ∧ result = .error error

theorem stopsAtError_nil (result : Except FetchError Nat) : StopsAtError [] result := by
  intro earlier failed later error nothing
  cases earlier <;> cases nothing

theorem stopsAtError_singleton (request : Request) (error : FetchError) :
    StopsAtError [⟨request, some (.error error)⟩] (.error error) := by
  intro earlier failed later error' parts reply_eq
  cases earlier with
  | nil =>
      cases parts
      cases reply_eq
      exact ⟨rfl, rfl⟩
  | cons first earlier =>
      have rest := (List.cons.inj parts).2
      cases earlier <;> cases rest

theorem StopsAtError.cons {exchanges : List Exchange} {result : Except FetchError Nat}
    (stops : StopsAtError exchanges result) (request : Request) (chunk : Chunk) :
    StopsAtError (⟨request, some (.ok chunk)⟩ :: exchanges) result := by
  intro earlier failed later error parts reply_eq
  cases earlier with
  | nil =>
      cases parts
      cases reply_eq
  | cons first earlier => exact stops earlier failed later error (List.cons.inj parts).2 reply_eq

/-- A reply has a terminator at the position, by the offset that it comes with. -/
def Shows (exchanges : List Exchange) (position : Nat) : Prop :=
  ∃ exchange ∈ exchanges, ∃ chunk index, exchange.reply = some (.ok chunk) ∧
    chunk.data[index]? = some newline ∧ position = chunk.offset + index

namespace TailSearch

/-! ## Windows and their replies -/

/-- The exchanges of a search from `stop` back to the beginning of the file, and its result. -/
inductive Searched (remote : RemoteFile) (chunkSize : Nat) :
    (stop : Nat) → List Exchange → Except FetchError Nat → Prop where
  /-- The beginning of the file. -/
  | top : Searched remote chunkSize 0 [] (.ok 0)
  /-- An error. -/
  | failed {stop : Nat} (some_octet : 0 < stop) (error : FetchError) :
      Searched remote chunkSize stop
        [⟨Window.request remote ⟨stop - chunkSize, stop⟩, some (.error error)⟩] (.error error)
  /-- A chunk that has the terminator that is wanted. -/
  | found {stop terminator : Nat} {chunk : Chunk} (some_octet : 0 < stop)
      (shown : terminator ∈ chunk.terminators) :
      Searched remote chunkSize stop
        [⟨Window.request remote ⟨stop - chunkSize, stop⟩, some (.ok chunk)⟩] (.ok (terminator + 1))
  /-- A chunk that does not have it. -/
  | passed {stop : Nat} {windows : List Exchange} {result : Except FetchError Nat}
      (some_octet : 0 < stop) (chunk : Chunk)
      (rest : Searched remote chunkSize (stop - chunkSize) windows result) :
      Searched remote chunkSize stop
        (⟨Window.request remote ⟨stop - chunkSize, stop⟩, some (.ok chunk)⟩ :: windows) result

namespace Searched

variable {remote : RemoteFile} {chunkSize stop : Nat} {windows : List Exchange}
  {result : Except FetchError Nat}

theorem length_le (searched : Searched remote chunkSize stop windows result)
    (positive : 0 < chunkSize) : windows.length ≤ stop ⌈/⌉ chunkSize := by
  induction searched with
  | top => exact Nat.zero_le _
  | failed some_octet error =>
      rw [ceilDiv_eq_succ positive some_octet]
      exact Nat.le_add_left ..
  | found some_octet shown =>
      rw [ceilDiv_eq_succ positive some_octet]
      exact Nat.le_add_left ..
  | passed some_octet chunk rest ih =>
      rw [ceilDiv_eq_succ positive some_octet]
      exact Nat.succ_le_succ ih

theorem range_ne_size (searched : Searched remote chunkSize stop windows result) :
    ∀ exchange ∈ windows, exchange.request.range ≠ .size := by
  induction searched with
  | top => nofun
  | failed some_octet error =>
      intro exchange member
      rw [List.mem_singleton.mp member]
      nofun
  | found some_octet shown =>
      intro exchange member
      rw [List.mem_singleton.mp member]
      nofun
  | passed some_octet chunk rest ih =>
      rw [List.forall_mem_cons]
      exact ⟨nofun, ih⟩

theorem stopsAtError (searched : Searched remote chunkSize stop windows result) :
    StopsAtError windows result := by
  induction searched with
  | top => exact stopsAtError_nil (.ok 0)
  | failed some_octet error => exact stopsAtError_singleton _ error
  | found some_octet shown => exact (stopsAtError_nil _).cons _ _
  | passed some_octet chunk rest ih => exact ih.cons _ chunk

/-- What is found is the position after a terminator in a reply. -/
theorem eq_zero_or_shows (searched : Searched remote chunkSize stop windows result) {offset : Nat}
    (result_eq : result = .ok offset) :
    offset = 0 ∨ ∃ position, Shows windows position ∧ offset = position + 1 := by
  induction searched with
  | top =>
      cases result_eq
      exact .inl rfl
  | failed some_octet error => cases result_eq
  | found some_octet shown =>
      cases result_eq
      obtain ⟨index, listed, position_eq⟩ := List.mem_map.mp shown
      exact .inr ⟨_, ⟨_, List.mem_singleton_self _, _, index, rfl,
        mem_terminators_iff.mp listed, position_eq.symm⟩, rfl⟩
  | passed some_octet chunk rest ih =>
      rcases ih result_eq with zero | ⟨position, ⟨exchange, member, shown⟩, offset_eq⟩
      · exact .inl zero
      · exact .inr ⟨position, ⟨exchange, List.mem_cons_of_mem _ member, shown⟩, offset_eq⟩

end Searched

/-! ## Runs -/

variable {endpoint : Endpoint (StateM σ)} {remote : RemoteFile} {wanted chunkSize : Nat}

/-- Looking through any chunk finds one of its terminators or goes on after as many as are not
more than wanted. -/
theorem scanWindow_any {met : Nat} (pending : met ≤ wanted) (chunk : Chunk) :
    (∃ terminator ∈ chunk.terminators,
      scanWindow wanted (chunk.offset + chunk.data.length) met
        (split chunk.data 0 .backward).lines = .inl (terminator + 1)) ∨
    ∃ met' ≤ wanted,
      scanWindow wanted (chunk.offset + chunk.data.length) met
        (split chunk.data 0 .backward).lines = .inr met' := by
  rw [scanWindow_split pending]
  cases found : chunk.terminators.reverse[wanted - met]? with
  | some terminator =>
      exact .inl ⟨terminator, List.mem_reverse.mp (List.mem_of_getElem? found), rfl⟩
  | none =>
      have few := List.getElem?_eq_none_iff.mp found
      rw [List.length_reverse] at few
      exact .inr ⟨_, by omega, rfl⟩

/-- The search comes to an end.  It comes to the same end if its exchanges are noted, and if it
computes in words. -/
theorem searchBack_searched (answers : endpoint.Answers) (fits : wanted < 2 ^ 64)
    {budget stop met : Nat} (pending : met ≤ wanted) (enough : stop ≤ budget * chunkSize)
    (world : σ) (record : List Exchange) :
    ∃ windows result world', Searched remote chunkSize stop windows result ∧
      (searchBack endpoint remote wanted chunkSize budget stop met).run world =
        (some result, world') ∧
      (searchBack endpoint.noting remote wanted chunkSize budget stop met).run (world, record) =
        (some result, world', record ++ windows) ∧
      (searchBack? endpoint remote wanted chunkSize budget stop met).run world =
        (some (some result), world') := by
  induction budget generalizing stop met world record with
  | zero =>
      obtain rfl : stop = 0 := by omega
      simp only [searchBack_zero, searchBack?_zero]
      exact ⟨[], _, _, .top, rfl, by rw [List.append_nil]; rfl, rfl⟩
  | succ budget ih =>
      cases stop with
      | zero =>
          simp only [searchBack_zero, searchBack?_zero]
          exact ⟨[], _, _, .top, rfl, by rw [List.append_nil]; rfl, rfl⟩
      | succ stop =>
          have some_octet : 0 < stop + 1 := Nat.succ_pos stop
          have reached : stop + 1 - chunkSize ≤ budget * chunkSize := by
            rw [Nat.succ_mul] at enough
            omega
          -- All three runs make the same read, and what they make of the reply is the same.
          simp only [searchBack_run, searchBack?_run, RemoteFile.fetch, Endpoint.noting_read_run]
          obtain ⟨reply, world', read_eq, bounded⟩ := answers
            (Window.request remote ⟨stop + 1 - chunkSize, stop + 1⟩) world
          rw [Window.request] at read_eq
          simp only [read_eq]
          cases reply with
          | error error => exact ⟨_, _, _, .failed some_octet error, rfl, rfl, rfl⟩
          | ok chunk =>
              obtain ⟨offset_lt, length_lt⟩ := bounded chunk rfl
              have within : chunk.offset + chunk.data.length < 2 ^ 64 := by omega
              simp only [scanChunk?_eq pending fits within]
              obtain ⟨terminator, shown, scanned⟩ | ⟨met', pending', scanned⟩ :=
                scanWindow_any pending chunk
              · simp only [scanned]
                exact ⟨_, _, _, .found some_octet shown, rfl, rfl, rfl⟩
              · simp only [scanned]
                obtain ⟨windows, result, world'', rest, plain, noted, words⟩ :=
                  ih pending' reached world' (record ++ [⟨Window.request remote
                    ⟨stop + 1 - chunkSize, stop + 1⟩, some (.ok chunk)⟩])
                refine ⟨_, _, _, .passed some_octet chunk rest, plain, ?_, words⟩
                rw [List.append_assoc, List.singleton_append] at noted
                exact noted

end TailSearch

namespace RemoteFile

open TailSearch

/-- Before any endpoint that answers its reads, the search comes to an end, whether or not its
exchanges are noted and also in machine words.  It asks for the size once and then for windows, for as many as
cover the size at most.  It stops at the first error and hands it on; what it finds otherwise is the
beginning of the file or the position after a terminator that a window has shown. -/
theorem locateTail_answers {endpoint : Endpoint (StateM σ)} (answers : endpoint.Answers)
    (remote : RemoteFile) {wanted chunkSize : Nat} (some_line : 0 < wanted)
    (fits : wanted < 2 ^ 64) (positive : 0 < chunkSize) (patience : Nat) (world : σ) :
    ∃ reply windows result world',
      (remote.locateTail endpoint wanted chunkSize patience).run world =
        (some result, world') ∧
      (remote.locateTail endpoint.noting wanted chunkSize patience).run (world, []) =
        (some result, world', ⟨⟨remote, .size⟩, some reply⟩ :: windows) ∧
      (remote.locateTail? endpoint wanted chunkSize patience).run world =
        (some (some result), world') ∧
      (∀ exchange ∈ windows, exchange.request.range ≠ .size) ∧
      (∀ chunk, reply = .ok chunk → windows.length ≤ chunk.offset ⌈/⌉ chunkSize) ∧
      StopsAtError (⟨⟨remote, .size⟩, some reply⟩ :: windows) result ∧
      ∀ offset, result = .ok offset →
        offset = 0 ∨ ∃ position, Shows windows position ∧ offset = position + 1 := by
  simp only [locateTail_run, locateTail?_run, Endpoint.noting_read_run]
  obtain ⟨reply, world', read_eq, bounded⟩ := answers ⟨remote, .size⟩ world
  simp only [read_eq]
  cases reply with
  | error error =>
      refine ⟨.error error, [], .error error, world', rfl, rfl, rfl, List.forall_mem_nil _, ?_,
        stopsAtError_singleton _ error, ?_⟩ <;> rintro _ ⟨⟩
  | ok chunk =>
      obtain ⟨windows, result, world'', searched, plain, noted, words⟩ :=
        @searchBack_searched _ _ remote _ _ answers fits _ _ 0 (Nat.zero_le wanted)
          (covered positive chunk.offset patience) world' [⟨⟨remote, .size⟩, some (.ok chunk)⟩]
      simp only [Nat.ne_of_gt some_line, if_false]
      refine ⟨.ok chunk, windows, result, world'', plain, noted, words, searched.range_ne_size, ?_,
        searched.stopsAtError.cons _ chunk, fun offset => searched.eq_zero_or_shows⟩
      rintro _ ⟨⟩
      exact searched.length_le positive

end RemoteFile

/-- An endpoint that reports a size of five octets, then shows two terminators at the greatest
offset there is, and then one near the beginning. -/
def Endpoint.lying : Endpoint (StateM Nat) where
  read _ := do
    let calls ← get
    set (calls + 1)
    match calls with
    | 0 => return some (.ok ⟨[], 5⟩)
    | 1 => return some (.ok ⟨[0x0A, 0x61, 0x0A], 2 ^ 63 - 1⟩)
    | _ => return some (.ok ⟨[0x61, 0x0A], 6⟩)

/-- Two windows of two octets are enough for the lie to be believed. -/
theorem RemoteFile.locateTail_answers_of_lies :
    ∃ windows world',
      (RemoteFile.locateTail ⟨"file", ∅⟩ Endpoint.lying.noting 2 2 0).run (0, []) =
        (some (.ok 8), world', ⟨⟨⟨"file", ∅⟩, .size⟩, some (.ok ⟨[], 5⟩)⟩ :: windows) ∧
      windows.length ≤ 5 ⌈/⌉ 2 ∧ ∃ position, Shows windows position ∧ 8 = position + 1 := by
  have answers : Endpoint.lying.Answers := by
    intro request calls
    match calls with
    | 0 => exact ⟨_, _, rfl, by rintro _ ⟨⟩; decide⟩
    | 1 => exact ⟨_, _, rfl, by rintro _ ⟨⟩; decide⟩
    | _ + 2 => exact ⟨_, _, rfl, by rintro _ ⟨⟩; decide⟩
  obtain ⟨reply, windows, result, world', plain, noted, _, _, few, _, shown⟩ :=
    RemoteFile.locateTail_answers answers ⟨"file", ∅⟩ Nat.two_pos (by decide) Nat.two_pos 0 0
  have result_eq : some result = some (.ok 8) := (congrArg Prod.fst plain).symm
  have reply_eq : some reply = some (.ok ⟨[], 5⟩) :=
    (congrArg (fun run => run.2.2.head?.bind Exchange.reply) noted).symm
  cases result_eq
  cases reply_eq
  exact ⟨windows, world', noted, few _ rfl, (shown 8 rfl).resolve_left (by decide)⟩

end RemoteTail

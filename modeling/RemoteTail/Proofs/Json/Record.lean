import Mathlib.Algebra.Group.Int.Defs
import Mathlib.Algebra.Group.Nat.Defs
import RemoteTail.Remote.Chunk

/-!
# What the fields of a record keep

A record is read by way of a state that collects its fields, from the members of
an object or from the elements of a list.  What every field keeps of the state,
the finished record has been made from (`RecordReader.exists_state_of_read`).

A read response so never has an offset beyond the integers of 64 bits.
-/

namespace RemoteTail.Json

variable {σ α : Type} {Inv : σ → Prop}

theorem ok_of_bind {β γ ε : Type} {first : Except ε β} {next : β → Except ε γ} {result : γ}
    (bind_eq : first >>= next = .ok result) :
    ∃ value, first = .ok value ∧ next value = .ok result := by
  cases first with
  | error error => cases bind_eq
  | ok value => exact ⟨value, rfl, bind_eq⟩

theorem exists_of_map {β γ ε : Type} {first : Except ε β} {make : β → γ} {result : γ}
    (map_eq : first.map make = .ok result) : ∃ value, first = .ok value ∧ make value = result := by
  cases first with
  | error error => cases map_eq
  | ok value => exact ⟨value, rfl, Except.ok.inj map_eq⟩

/-- An integer that has been read is within the bounds. -/
theorem readInt_bounds {least greatest value : Int} {text rest : List Token}
    (read_eq : readInt least greatest text = .ok (value, rest)) :
    least ≤ value ∧ value ≤ greatest := by
  rw [readInt.eq_def] at read_eq
  split at read_eq
  · cases read_eq
  · split at read_eq
    · next within =>
        cases read_eq
        simpa using within
    · cases read_eq
  · cases read_eq

theorem readMembers_keeps {member : σ → String → Reader σ}
    (keeps : ∀ {state state' key text rest}, Inv state →
      member state key text = .ok (state', rest) → Inv state')
    {limit : Nat} {first : Bool} {state state' : σ} {text rest : List Token} (inv : Inv state)
    (read_eq : readMembers member limit first state text = .ok (state', rest)) : Inv state' := by
  induction limit generalizing first state text with
  | zero => cases read_eq
  | succ limit ih =>
      rw [readMembers] at read_eq
      rcases found : nextKey first text with fault | ⟨_ | key, text⟩
      · simp only [found, reduceCtorEq] at read_eq
      · simp only [found, Except.ok.injEq, Prod.mk.injEq] at read_eq
        exact read_eq.1 ▸ inv
      · rcases taken : member state key text with fault | ⟨next, text⟩
        · simp only [found, taken, reduceCtorEq] at read_eq
        · simp only [found, taken] at read_eq
          exact ih (keeps inv taken) read_eq

namespace RecordReader

/-- Every field keeps what the record starts with. -/
structure Keeps (record : RecordReader σ α) (Inv : σ → Prop) : Prop where
  start : Inv record.start
  read : ∀ field ∈ record.fields, ∀ {state state' text rest}, Inv state →
    field.read state text = .ok (state', rest) → Inv state'

variable {record : RecordReader σ α}

theorem readElements_keeps {fields : List (Field σ)}
    (keeps : ∀ field ∈ fields, ∀ {state state' text rest}, Inv state →
      field.read state text = .ok (state', rest) → Inv state')
    {first : Bool} {state state' : σ} {text rest : List Token} (inv : Inv state)
    (read_eq : readElements fields first state text = .ok (state', rest)) : Inv state' := by
  induction fields generalizing first state text with
  | nil =>
      cases read_eq
      exact inv
  | cons field fields ih =>
      rw [List.forall_mem_cons] at keeps
      rw [readElements] at read_eq
      rcases found : nextElement first text with fault | ⟨_ | _, text⟩
      · simp only [found, reduceCtorEq] at read_eq
      · simp only [found, Except.ok.injEq, Prod.mk.injEq] at read_eq
        exact read_eq.1 ▸ inv
      · rcases taken : field.read state text with fault | ⟨next, text⟩
        · simp only [found, taken, reduceCtorEq] at read_eq
        · simp only [found, taken] at read_eq
          exact ih keeps.2 (keeps.1 inv taken) read_eq

theorem afterColon_cases {β : Type} {read : Reader β} {text rest : List Token} {value : β}
    (read_eq : afterColon read text = .ok (value, rest)) :
    ∃ text, read text = .ok (value, rest) := by
  rcases text with _ | ⟨token, text⟩
  · cases read_eq
  · cases token <;> first | exact ⟨text, read_eq⟩ | cases read_eq

theorem Keeps.readMember (keeps : record.Keeps Inv) {state state' : σ} {key : String}
    {text rest : List Token} (inv : Inv state)
    (read_eq : record.readMember state key text = .ok (state', rest)) : Inv state' := by
  rw [RecordReader.readMember] at read_eq
  cases found : record.fields.find? (·.name = key) with
  | none =>
      simp only [found] at read_eq
      obtain ⟨text, skipped⟩ := afterColon_cases read_eq
      rcases passed : skipValue text with fault | rest
      · simp only [passed, Except.map, reduceCtorEq] at skipped
      · simp only [passed, Except.map, Except.ok.injEq, Prod.mk.injEq] at skipped
        exact skipped.1 ▸ inv
  | some field =>
      simp only [found] at read_eq
      by_cases again : field.isRead state = true
      · rw [if_pos again] at read_eq
        cases read_eq
      · rw [if_neg again] at read_eq
        obtain ⟨text, taken⟩ := afterColon_cases read_eq
        exact keeps.read field (List.mem_of_find?_eq_some found) inv taken

theorem finish_of_complete {state : σ} {value : α}
    (complete_eq : record.complete state = .ok value) : record.finish state = some value := by
  rw [complete] at complete_eq
  cases found : record.finish state with
  | none => simp only [found, reduceCtorEq] at complete_eq
  | some finished =>
      simp only [found, Except.ok.injEq] at complete_eq
      rw [complete_eq]

/-- A record that has been read is made from a state that the fields have kept. -/
theorem Keeps.exists_state_of_read (keeps : record.Keeps Inv) {text rest : List Token} {value : α}
    (read_eq : record.read text = .ok (value, rest)) :
    ∃ state, Inv state ∧ record.finish state = some value := by
  match text with
  | [] => cases read_eq
  | .opening .object :: text =>
      obtain ⟨⟨state, rest'⟩, members_eq, read_eq⟩ := ok_of_bind read_eq
      obtain ⟨value', complete_eq, read_eq⟩ := ok_of_bind read_eq
      cases read_eq
      exact ⟨state, readMembers_keeps keeps.readMember keeps.start members_eq,
        finish_of_complete complete_eq⟩
  | .opening .list :: text =>
      obtain ⟨⟨state, rest'⟩, elements_eq, read_eq⟩ := ok_of_bind read_eq
      obtain ⟨value', complete_eq, read_eq⟩ := ok_of_bind read_eq
      obtain ⟨rest'', _, read_eq⟩ := ok_of_bind read_eq
      cases read_eq
      exact ⟨state, readElements_keeps keeps.read keeps.start elements_eq,
        finish_of_complete complete_eq⟩
  | .closing _ :: _ | .colon :: _ | .comma :: _ | .word _ :: _ | .number _ _ :: _
  | .text _ _ :: _ | .junk :: _ => cases read_eq

theorem Keeps.exists_state_of_readDocument (keeps : record.Keeps Inv) {text : Bytes} {value : α}
    (read_eq : record.readDocument text = .ok value) :
    ∃ state, Inv state ∧ record.finish state = some value := by
  obtain ⟨⟨value', rest⟩, read_eq, ended⟩ := ok_of_bind read_eq
  by_cases whole : rest.isEmpty
  · simp only [whole, if_true, Except.ok.injEq] at ended
    exact ended ▸ keeps.exists_state_of_read read_eq
  · simp only [whole, if_false, reduceCtorEq] at ended

end RecordReader

end RemoteTail.Json

namespace RemoteTail.Chunk

open Json

/-- The fields of a read response keep its offset within the integers of 64 bits. -/
theorem record_keeps :
    record.Keeps fun draft => ∀ offset, draft.offset = some offset → offset < 2 ^ 63 where
  start := nofun
  read := by
    intro field member state state' text rest small read_eq
    simp only [record, List.mem_cons, List.not_mem_nil, or_false] at member
    rcases member with rfl | rfl
    · obtain ⟨⟨value, rest'⟩, _, draft_eq⟩ := exists_of_map read_eq
      cases draft_eq
      exact small
    · obtain ⟨⟨value, rest'⟩, taken, draft_eq⟩ := exists_of_map read_eq
      cases draft_eq
      rintro _ ⟨⟩
      have bounded := (readInt_bounds taken).2
      omega

/-- The offset of a read response is less than 2⁶³. -/
theorem offset_lt_of_decode {body : Bytes} {chunk : Chunk} (decode_eq : decode body = .ok chunk) :
    chunk.offset < 2 ^ 63 := by
  rw [decode] at decode_eq
  rcases document_eq : record.readDocument body with fault | ⟨data, offset⟩
  · simp only [document_eq, reduceCtorEq] at decode_eq
  · simp only [document_eq] at decode_eq
    obtain ⟨draft, small, finish_eq⟩ := record_keeps.exists_state_of_readDocument document_eq
    obtain ⟨data', _, finish_eq⟩ := Option.bind_eq_some_iff.mp finish_eq
    obtain ⟨offset', offset_eq, finish_eq⟩ := Option.bind_eq_some_iff.mp finish_eq
    cases finish_eq
    have bounded := small offset offset_eq
    by_cases negative : offset < 0
    · simp only [negative, if_true, reduceCtorEq] at decode_eq
    · simp only [negative, if_false, Except.ok.injEq] at decode_eq
      rw [← decode_eq]
      show offset.toNat < 2 ^ 63
      omega

end RemoteTail.Chunk

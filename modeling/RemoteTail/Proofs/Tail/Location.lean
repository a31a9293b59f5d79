import RemoteTail.Proofs.Simulation.Growth
import RemoteTail.Proofs.Tail.Search

/-!
# The tail search equals the plain scan

The search asks for one window after another, in a file that may grow before
every read, and sees terminators only through the spans of reversed lines.  The
result is the one that a look at every octet of the file gives, as the file was
when its size was reported: what is appended later lies behind all windows, and
windows that meet show the terminators of the stretch that they cover.
-/

namespace RemoteTail

open Simulation Bytes

namespace TailSearch

/-- A window of a file that may have grown shows the terminators of the content there. -/
theorem terminators_window {service : Service ReadReply} {file : MemoryFile} {content : Bytes}
    {start stop : Nat} (serves : service.Serves file) (grows : content <+: file.bytes)
    (before : start ≤ stop) (inside : stop ≤ content.length) :
    (file.read (.bytes start (stop - start))).terminators =
      (terminators (content.slice start stop)).map (start + ·) := by
  have full : (content.slice start stop).length = stop - start := by
    rw [length_slice]
    omega
  have shown := MemoryFile.terminators_read serves.cap_eq serves.readable start (stop - start)
  rwa [Nat.add_sub_cancel' before, slice_of_prefix grows full] at shown

/-- One window of a content that may have grown: it shows the terminators from `start` on, and the
search stops at the one that is wanted or goes on below. -/
theorem searchBack_serves_run {service : Service ReadReply} {file : MemoryFile}
    {remote : RemoteFile} {content : Bytes} {wanted chunkSize start stop met : Nat}
    (serves : service.Serves file) (grows : content <+: file.bytes)
    (inside : stop + 1 ≤ content.length) (pending : met ≤ wanted)
    (start_eq : stop + 1 - chunkSize = start) (budget : Nat) :
    ∃ service' more shown, service'.Serves (file.append more) ∧
      service'.log = ⟨remote, .bytes start (stop + 1 - start)⟩ :: service.log ∧
      shown = (terminators (content.slice start (stop + 1))).map (start + ·) ∧
      (searchBack serviceEndpoint remote wanted chunkSize (budget + 1) (stop + 1) met).run service =
        match shown.reverse[wanted - met]? with
        | some terminator => (some (.ok (terminator + 1)), service')
        | none =>
            (searchBack serviceEndpoint remote wanted chunkSize budget start
              (met + shown.length)).run service' := by
  have before : start ≤ stop + 1 := start_eq ▸ Nat.sub_le ..
  have answered := serves.answered ⟨remote, .bytes start (stop + 1 - start)⟩
  have grown := grows.trans (service.bytes_prefix_ahead file)
  refine ⟨_, _, _, answered, rfl, rfl, ?_⟩
  rw [searchBack_run, start_eq, RemoteFile.fetch, serves.read,
    ← terminators_window answered grown before inside]
  simp only [scanWindow_split pending]
  generalize (service.ahead file).read (.bytes start (stop + 1 - start)) = chunk
  cases chunk.terminators.reverse[wanted - met]? with
  | some terminator => rfl
  | none => rfl

/-- The search in a content that may have grown finds the terminator that is wanted among those
before `stop`. -/
theorem searchBack_eq {service : Service ReadReply} {file : MemoryFile} {remote : RemoteFile}
    {content : Bytes} {wanted chunkSize budget stop met : Nat} (serves : service.Serves file)
    (grows : content <+: file.bytes) (inside : stop ≤ content.length) (pending : met ≤ wanted)
    (enough : stop ≤ budget * chunkSize) :
    ∃ service' more,
      (searchBack serviceEndpoint remote wanted chunkSize budget stop met).run service =
          (some (.ok (((terminators (content.take stop)).reverse[wanted - met]?).elim 0 (· + 1))),
            service') ∧
        service'.Serves (file.append more) := by
  induction budget generalizing stop met service file with
  | zero =>
      obtain rfl : stop = 0 := by omega
      refine ⟨service, [], ?_, by rwa [MemoryFile.append_nil]⟩
      rw [searchBack_zero]
      rfl
  | succ budget ih =>
      cases stop with
      | zero =>
          refine ⟨service, [], ?_, by rwa [MemoryFile.append_nil]⟩
          rw [searchBack_zero]
          rfl
      | succ stop =>
          have reached : stop + 1 - chunkSize ≤ budget * chunkSize := by
            rw [Nat.succ_mul] at enough
            omega
          have before : stop + 1 - chunkSize ≤ stop + 1 := Nat.sub_le ..
          obtain ⟨service', more, shown, answered, _, shown_eq, run_eq⟩ :=
            @searchBack_serves_run _ _ remote _ _ chunkSize _ _ _ serves grows inside pending rfl
              budget
          generalize stop + 1 - chunkSize = start at reached before shown_eq run_eq
          rw [run_eq, terminators_take before (Nat.le_trans before inside), ← shown_eq,
            List.reverse_append]
          cases found : shown.reverse[wanted - met]? with
          | some terminator =>
              have here := (List.getElem?_eq_some_iff.mp found).1
              rw [List.getElem?_append_left here, found]
              exact ⟨_, _, rfl, answered⟩
          | none =>
              have few := List.getElem?_eq_none_iff.mp found
              have still : met + shown.length ≤ wanted := by
                rw [List.length_reverse] at few
                omega
              obtain ⟨service', further, run_eq, serves'⟩ :=
                ih answered (grows.trans (file.bytes_prefix_append more))
                  (Nat.le_trans before inside) still reached
              rw [List.getElem?_append_right few, List.length_reverse, Nat.sub_sub]
              refine ⟨service', more ++ further, run_eq, ?_⟩
              rw [← MemoryFile.append_append]
              exact serves'

end TailSearch

namespace RemoteFile

open TailSearch

/-- The search finds the tail of the file as the size read finds it, and the file is served on. -/
theorem locateTail_serves {service : Service ReadReply} {file : MemoryFile}
    (serves : service.Serves file) (remote : RemoteFile) {wanted chunkSize : Nat}
    (some_line : 0 < wanted) (positive : 0 < chunkSize) (patience : Nat) :
    ∃ service' more,
      (remote.locateTail serviceEndpoint wanted chunkSize patience).run service =
          (some (.ok ((service.ahead file).bytes.tailOffset wanted)), service') ∧
        service'.Serves ((service.ahead file).append more) := by
  have answered := serves.answered ⟨remote, .size⟩
  have inside : (service.ahead file).size ≤ (service.ahead file).bytes.length :=
    Nat.le_of_eq (MemoryFile.length_bytes _).symm
  obtain ⟨service', more, run_eq, serves'⟩ := @TailSearch.searchBack_eq _ _ remote _ _ _ _ _ _
    answered (List.prefix_refl _) inside (Nat.zero_le wanted) (covered positive _ patience)
  rw [List.take_of_length_le (Nat.le_of_eq (MemoryFile.length_bytes _))] at run_eq
  refine ⟨service', more, ?_, serves'⟩
  rw [locateTail_run, serves.read]
  simp only [MemoryFile.read_size, Nat.ne_of_gt some_line, if_false]
  exact run_eq

/-- The search by windows is the plain scan: whatever the windows are and whatever is appended once
the size has been read, the result is one past the terminator number `wanted + 1` from the end of
the file as it was then, or zero if it had no more than `wanted`. -/
theorem locateTail_eq_tailOffset {service : Service ReadReply} {file : MemoryFile}
    (serves : service.Serves file) (remote : RemoteFile) {wanted chunkSize : Nat}
    (some_line : 0 < wanted) (positive : 0 < chunkSize) (patience : Nat) :
    ((remote.locateTail serviceEndpoint wanted chunkSize patience).run service).1 =
      some (.ok ((service.ahead file).bytes.tailOffset wanted)) := by
  obtain ⟨service', more, run_eq, _⟩ :=
    locateTail_serves serves remote some_line positive patience
  rw [run_eq]

/-- One octet at a time, in a text that grows while it is searched and whose second line is a
character of two octets. -/
theorem locateTail_eq_tailOffset_of_text :
    ((locateTail ⟨"file", ∅⟩ serviceEndpoint 1 1 0).run
        { source := .memory
            { content := #[0x61, 0x0A, 0xC3, 0xA9, 0x0A, 0x62], charAligned := true }
          growth := [(2, [0x0A])] }).1 =
      some (.ok 2) := by
  let file : MemoryFile :=
    { content := #[0x61, 0x0A, 0xC3, 0xA9, 0x0A, 0x62], charAligned := true }
  let service : Service ReadReply := { source := .memory file, growth := [(2, [0x0A])] }
  have file_text : Utf8.IsText file.bytes := ⟨['a', '\n', 'é', '\n', 'b'], by decide⟩
  have growth_text : ∀ entry ∈ service.growth, Utf8.IsText entry.2 := by
    intro entry member
    rw [List.mem_singleton.mp member]
    exact ⟨['\n'], by decide⟩
  have serves : service.Serves file :=
    ⟨rfl, rfl, rfl, rfl, rfl, fun _ => file_text, fun _ => growth_text⟩
  exact locateTail_eq_tailOffset serves ⟨"file", ∅⟩ Nat.one_pos Nat.one_pos 0

end RemoteFile

end RemoteTail

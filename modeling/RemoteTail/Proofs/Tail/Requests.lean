import Mathlib.Algebra.Order.Floor.Div
import Mathlib.GroupTheory.GroupAction.Ring
import RemoteTail.Proofs.Tail.Location

/-!
# What the tail search asks for

One read of the size is followed by reads of windows, each of which ends where the
one before it begins, from the size down.  No octet is asked for twice, and there
are as many windows as it takes to come from the size to the terminator before the
wanted lines, or to the beginning of the file if there is none
(`locateTail_requests`).  Neither growth during the search nor windows that are
kept on character boundaries change that.
-/

namespace RemoteTail

open Simulation Bytes

namespace TailSearch

/-- A stretch of a file. -/
structure Window where
  /-- Position of the first octet. -/
  start : Nat
  /-- Position after the last octet. -/
  stop : Nat
deriving DecidableEq, Repr

/-- The read that asks for a window of a file. -/
def Window.request (remote : RemoteFile) (window : Window) : Request :=
  ⟨remote, .bytes window.start (window.stop - window.start)⟩

/-- Windows of `chunkSize` octets at most, the first of which ends at `stop` and each other of which
ends where the one before it begins. -/
inductive Descends (chunkSize : Nat) : (stop : Nat) → List Window → Prop where
  /-- No windows. -/
  | nil (stop : Nat) : Descends chunkSize stop []
  /-- A window and those before it in the file. -/
  | cons {start stop : Nat} {windows : List Window} (some_octet : start < stop)
      (narrow : stop ≤ start + chunkSize) (rest : Descends chunkSize start windows) :
      Descends chunkSize stop (⟨start, stop⟩ :: windows)

namespace Descends

variable {chunkSize stop : Nat} {windows : List Window}

theorem stop_le (descends : Descends chunkSize stop windows) :
    ∀ window ∈ windows, window.stop ≤ stop := by
  induction descends with
  | nil stop => nofun
  | cons some_octet _ _ ih =>
      rw [List.forall_mem_cons]
      exact ⟨Nat.le_refl _, fun window member =>
        Nat.le_trans (ih window member) (Nat.le_of_lt some_octet)⟩

/-- No octet is in two of the windows. -/
theorem pairwise (descends : Descends chunkSize stop windows) :
    windows.Pairwise fun earlier later => later.stop ≤ earlier.start := by
  induction descends with
  | nil stop => exact .nil
  | cons _ _ rest ih => exact List.pairwise_cons.mpr ⟨rest.stop_le, ih⟩

end Descends

/-! ## Counting windows -/

/-- One more window covers `chunkSize` more octets. -/
theorem ceilDiv_eq_succ {chunkSize octets : Nat} (positive : 0 < chunkSize)
    (some_octet : 0 < octets) : octets ⌈/⌉ chunkSize = (octets - chunkSize) ⌈/⌉ chunkSize + 1 := by
  simp only [Nat.ceilDiv_eq_add_pred_div]
  rcases Nat.lt_or_ge octets chunkSize with few | many
  · rw [Nat.sub_eq_zero_of_le (Nat.le_of_lt few), Nat.zero_add,
      Nat.div_eq_of_lt (Nat.sub_lt positive Nat.one_pos)]
    apply Nat.div_eq_of_lt_le <;> omega
  · rw [Nat.div_eq_sub_div positive (by omega)]
    congr 2
    omega

/-- A window brings the search closer to a terminator. -/
theorem ceilDiv_of_lt {chunkSize stop terminator : Nat} (positive : 0 < chunkSize)
    (before : terminator < stop) :
    (stop - terminator) ⌈/⌉ chunkSize = (stop - chunkSize - terminator) ⌈/⌉ chunkSize + 1 := by
  rw [ceilDiv_eq_succ positive (Nat.sub_pos_of_lt before), Nat.sub_right_comm]

theorem getD_terminators_take_le (content : Bytes) (stop index : Nat) :
    (terminators (content.take stop)).reverse[index]?.getD 0 ≤ stop := by
  cases found : (terminators (content.take stop)).reverse[index]? with
  | none => exact Nat.zero_le stop
  | some terminator =>
      have listed := List.mem_reverse.mp (List.mem_of_getElem? found)
      have inside := (List.getElem?_eq_some_iff.mp (mem_terminators_iff.mp listed)).1
      rw [List.length_take] at inside
      exact Nat.le_of_lt (Nat.lt_of_lt_of_le inside (Nat.min_le_left ..))

/-! ## Runs -/

/-- The windows of a search, from the first to the last. -/
theorem searchBack_requests {service : Service ReadReply} {file : MemoryFile} {remote : RemoteFile}
    {content : Bytes} {wanted chunkSize budget stop met : Nat} (serves : service.Serves file)
    (grows : content <+: file.bytes) (inside : stop ≤ content.length) (pending : met ≤ wanted)
    (enough : stop ≤ budget * chunkSize) (positive : 0 < chunkSize) :
    ∃ windows, Descends chunkSize stop windows ∧
      ((searchBack serviceEndpoint remote wanted chunkSize budget stop met).run service).2.log =
        (windows.map (Window.request remote)).reverse ++ service.log ∧
      windows.length =
        (stop - (terminators (content.take stop)).reverse[wanted - met]?.getD 0) ⌈/⌉ chunkSize := by
  induction budget generalizing stop met service file with
  | zero =>
      obtain rfl : stop = 0 := by omega
      refine ⟨[], .nil 0, ?_, ?_⟩
      · rw [searchBack_zero]
        rfl
      · rw [Nat.zero_sub, zero_ceilDiv, List.length_nil]
  | succ budget ih =>
      cases stop with
      | zero =>
          refine ⟨[], .nil 0, ?_, ?_⟩
          · rw [searchBack_zero]
            rfl
          · rw [Nat.zero_sub, zero_ceilDiv, List.length_nil]
      | succ stop =>
          obtain ⟨start, start_eq⟩ : ∃ start, stop + 1 - chunkSize = start := ⟨_, rfl⟩
          have below : start < stop + 1 := by omega
          have narrow : stop + 1 ≤ start + chunkSize := by omega
          obtain ⟨service', more, shown, serves', log_eq, shown_eq, run_eq⟩ :=
            @searchBack_serves_run _ _ remote _ _ _ _ _ _ serves grows inside pending start_eq
              budget
          rw [run_eq, terminators_take (Nat.le_of_lt below) (by omega), ← shown_eq,
            List.reverse_append]
          cases found : shown.reverse[wanted - met]? with
          | some terminator =>
              have here := (List.getElem?_eq_some_iff.mp found).1
              have listed := List.mem_reverse.mp (List.mem_of_getElem? found)
              rw [shown_eq, mem_map_terminators_slice_iff] at listed
              obtain ⟨after, before, _⟩ := listed
              refine ⟨[⟨start, stop + 1⟩], .cons below narrow (.nil start), log_eq, ?_⟩
              rw [List.getElem?_append_left here, found, Option.getD_some,
                ceilDiv_of_lt positive before, start_eq, Nat.sub_eq_zero_of_le after, zero_ceilDiv,
                List.length_singleton]
          | none =>
              -- The terminator that is wanted, if there is one, lies before this window, so that
              -- the window takes its whole length off the distance.
              have few := List.getElem?_eq_none_iff.mp found
              rw [List.getElem?_append_right few]
              rw [List.length_reverse] at few ⊢
              have reached : start ≤ budget * chunkSize := by
                rw [Nat.succ_mul] at enough
                omega
              obtain ⟨windows, descends, rest_eq, length_eq⟩ :=
                @ih _ _ start (met + shown.length) serves'
                  (grows.trans (file.bytes_prefix_append more)) (by omega) (by omega) reached
              refine ⟨⟨start, stop + 1⟩ :: windows, .cons below narrow descends, ?_, ?_⟩
              · rw [rest_eq, log_eq, List.map_cons, List.reverse_cons, List.append_assoc,
                  List.singleton_append]
                rfl
              · have above := getD_terminators_take_le content start (wanted - met - shown.length)
                rw [List.length_cons, length_eq, ← Nat.sub_sub wanted,
                  ceilDiv_of_lt positive (Nat.lt_of_le_of_lt above below), start_eq]

end TailSearch

namespace RemoteFile

open TailSearch

/-- The search asks for the size and then for windows that meet and do not overlap, from the size
down.  There are as many of them as it takes to come to the terminator number `wanted + 1` from the
end of the file as it was when its size was reported, or to its beginning if it had no more than
`wanted`. -/
theorem locateTail_requests {service : Service ReadReply} {file : MemoryFile}
    (serves : service.Serves file) (remote : RemoteFile) {wanted chunkSize : Nat}
    (some_line : 0 < wanted) (positive : 0 < chunkSize) (patience : Nat) :
    ∃ windows service',
      (remote.locateTail serviceEndpoint wanted chunkSize patience).run service =
          (some (.ok ((service.ahead file).bytes.tailOffset wanted)), service') ∧
        service'.log =
          (windows.map (Window.request remote)).reverse ++ ⟨remote, .size⟩ :: service.log ∧
        Descends chunkSize (service.ahead file).size windows ∧
        windows.Pairwise (fun earlier later => later.stop ≤ earlier.start) ∧
        (∀ terminator,
          (terminators (service.ahead file).bytes).reverse[wanted]? = some terminator →
            windows.length = ((service.ahead file).size - terminator) ⌈/⌉ chunkSize) ∧
        ((terminators (service.ahead file).bytes).length ≤ wanted →
          windows.length = (service.ahead file).size ⌈/⌉ chunkSize) := by
  have answered := serves.answered ⟨remote, .size⟩
  have length_eq := (service.ahead file).length_bytes
  obtain ⟨windows, descends, log_eq, count_eq⟩ := @searchBack_requests _ _ remote _ wanted _ _ _ _
    answered (List.prefix_refl _) (Nat.le_of_eq length_eq.symm) (Nat.zero_le wanted)
    (covered positive _ patience) positive
  rw [List.take_of_length_le (Nat.le_of_eq length_eq), Nat.sub_zero] at count_eq
  obtain ⟨service', more, run_eq, _⟩ :=
    locateTail_serves serves remote some_line positive patience
  refine ⟨windows, service', run_eq, ?_, descends, descends.pairwise, ?_, ?_⟩
  · have after : ((remote.locateTail serviceEndpoint wanted chunkSize patience).run service).2 =
        service' := by rw [run_eq]
    rw [← after, locateTail_run, serves.read]
    simp only [MemoryFile.read_size, Nat.ne_of_gt some_line, if_false]
    exact log_eq
  · intro terminator found
    rw [count_eq, found, Option.getD_some]
  · intro few
    rw [count_eq, List.getElem?_eq_none (by rwa [List.length_reverse]), Option.getD_none,
      Nat.sub_zero]

/-- One octet at a time, the search goes down to the first terminator of the text, past a character
that no window holds and whatever is appended in between. -/
theorem locateTail_requests_of_growing_text :
    ∃ windows service',
      (locateTail ⟨"file", ∅⟩ serviceEndpoint 1 1 0).run
          { source := .memory
              { content := #[0x61, 0x0A, 0xC3, 0xA9, 0x0A], charAligned := true }
            growth := [(1, [0x62]), (3, [0x0A])] } = (some (.ok 2), service') ∧
        service'.log =
          (windows.map (Window.request ⟨"file", ∅⟩)).reverse ++ [⟨⟨"file", ∅⟩, .size⟩] ∧
        Descends 1 6 windows ∧ windows.length = 5 := by
  let file : MemoryFile := { content := #[0x61, 0x0A, 0xC3, 0xA9, 0x0A], charAligned := true }
  let service : Service ReadReply :=
    { source := .memory file, growth := [(1, [0x62]), (3, [0x0A])] }
  have file_text : Utf8.IsText file.bytes := ⟨['a', '\n', 'é', '\n'], by decide⟩
  have growth_text : ∀ entry ∈ service.growth, Utf8.IsText entry.2 := by
    intro entry member
    rcases List.mem_pair.mp member with rfl | rfl
    · exact ⟨['b'], by decide⟩
    · exact ⟨['\n'], by decide⟩
  have serves : service.Serves file :=
    ⟨rfl, rfl, rfl, rfl, rfl, fun _ => file_text, fun _ => growth_text⟩
  obtain ⟨windows, service', run_eq, log_eq, descends, _, count_eq, _⟩ :=
    locateTail_requests serves ⟨"file", ∅⟩ Nat.one_pos Nat.one_pos 0
  exact ⟨windows, service', run_eq, log_eq, descends, (count_eq 1 (by decide)).trans (by decide)⟩

end RemoteFile

end RemoteTail

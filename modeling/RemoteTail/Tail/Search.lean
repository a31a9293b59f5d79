import RemoteTail.Line.Split
import RemoteTail.Remote.Request

/-!
# Searching for the tail of a file

The offset at which the last lines of a file begin is found from its end, one
window at a time.  Each window is split backwards, so that its terminators come
nearest the end first, and every octet is asked for once.  Only terminated
lines count: what follows the last terminator is still being written.

The last of `wanted` lines ends with the last terminator of the file, so the
first of them begins right after the terminator number `wanted + 1` from the
end.
-/

namespace RemoteTail

namespace TailSearch

/-- Takes the backward lines of a window, whose octets end at `stop`, after `met` terminators.
Answers with the offset at which the wanted lines begin, or else with the number of terminators
met so far. -/
def scanWindow (wanted : Nat) : (stop met : Nat) → List Line → Nat ⊕ Nat
  | _, met, [] => .inr met
  | stop, met, line :: lines =>
    let terminator := stop - line.span
    if met = wanted then .inl (terminator + 1) else scanWindow wanted terminator (met + 1) lines

variable {m : Type → Type} [Monad m]

/-- Searches from `stop` back to the beginning of the file, in at most `budget` windows. -/
def searchBack (endpoint : Endpoint m) (file : RemoteFile) (wanted chunkSize : Nat) :
    (budget stop met : Nat) → m (Option (Except FetchError Nat))
  | _, 0, _ => return some (.ok 0)
  | 0, _ + 1, _ => return none
  | budget + 1, stop + 1, met => do
    let start := stop + 1 - chunkSize
    match ← file.fetch endpoint start (stop + 1 - start) with
    | none => return none
    | some (.error error) => return some (.error error)
    | some (.ok chunk) =>
      let lines := (split chunk.data 0 .backward).lines
      match scanWindow wanted (chunk.offset + chunk.data.length) met lines with
      | .inl offset => return some (.ok offset)
      | .inr met => searchBack endpoint file wanted chunkSize budget start met

end TailSearch

/-- The offset of the first of the last `wanted` terminated lines of a file, or zero if the file
holds no more than those.  Windows of `chunkSize` octets cover the file; with empty windows the
search stays where it is for `patience` further reads. -/
def RemoteFile.locateTail {m : Type → Type} [Monad m] (file : RemoteFile) (endpoint : Endpoint m)
    (wanted chunkSize patience : Nat) : m (Option (Except FetchError Nat)) := do
  match ← file.fileSize endpoint with
  | none => return none
  | some (.error error) => return some (.error error)
  | some (.ok size) =>
    if wanted = 0 then return some (.ok size)
    else
      TailSearch.searchBack endpoint file wanted chunkSize (size / chunkSize + 1 + patience) size 0

end RemoteTail

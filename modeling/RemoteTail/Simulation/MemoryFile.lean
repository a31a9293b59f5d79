import RemoteTail.Remote.Request
import RemoteTail.Text.Utf8

/-!
# Files in memory

A file in memory answers reads as a remote endpoint does: reads past the end
give no data, size reads give the length.  It may cap its answers, and it may
keep every window on character boundaries, as an endpoint must that returns its
data as text.

Octets are reached by position; `bytes` is the content as a plain list, and
each operation is described by what it does to that list.
-/

namespace RemoteTail.Simulation

/-- A file held in memory. -/
structure MemoryFile where
  /-- The octets of the file. -/
  content : Array UInt8
  /-- Whether windows are kept on character boundaries. -/
  charAligned : Bool := false
  /-- The most octets in one answer, if there is a bound. -/
  cap : Option Nat := none
deriving DecidableEq, Repr

namespace MemoryFile

/-- A file with the given octets, without a cap and with windows anywhere. -/
def ofBytes (octets : Bytes) : MemoryFile :=
  { content := octets.toArray }

/-- The octets of the file, in a list. -/
def bytes (file : MemoryFile) : Bytes :=
  file.content.toList

@[simp]
theorem bytes_ofBytes (octets : Bytes) : (ofBytes octets).bytes = octets :=
  rfl

/-- Number of octets of the file. -/
def size (file : MemoryFile) : Nat :=
  file.content.size

@[simp]
theorem length_bytes (file : MemoryFile) : file.bytes.length = file.size :=
  Array.length_toList

/-- The octets at positions `start` up to, not including, `stop`. -/
def window (file : MemoryFile) (start stop : Nat) : Bytes :=
  (file.content.extract start stop).toList

@[simp]
theorem window_eq_slice (file : MemoryFile) (start stop : Nat) :
    file.window start stop = file.bytes.slice start stop := by
  simp [window, bytes, Bytes.slice]

/-- Whether a character may begin at a position; the end of the content and everything beyond
counts. -/
def isBoundary (file : MemoryFile) (position : Nat) : Bool :=
  !(file.content[position]?).any Utf8.isContinuation

/-- The least boundary from a position on, or else the position after the next `ahead` ones. -/
def boundaryFrom (file : MemoryFile) : (ahead position : Nat) → Nat
  | 0, position => position
  | ahead + 1, position =>
    if file.isBoundary position then position else boundaryFrom file ahead (position + 1)

/-- The greatest boundary above `low` and not above `position`, or else `low`, or `position` if it
lies below. -/
def boundaryBack (file : MemoryFile) (low : Nat) : (position : Nat) → Nat
  | 0 => 0
  | position + 1 =>
    if low < position + 1 && !file.isBoundary (position + 1) then boundaryBack file low position
    else position + 1

/-- The answer to a read. -/
def read (file : MemoryFile) : ReadRange → Chunk
  | .size => ⟨[], file.size⟩
  | .bytes offset length =>
    let start := min offset file.size
    let stop := min (start + min length (file.cap.getD length)) file.size
    if file.charAligned then
      let first := file.boundaryFrom (file.size - start) start
      ⟨file.window first (file.boundaryBack first stop), first⟩
    else ⟨file.window start stop, offset⟩

/-- The file with further octets at its end. -/
def append (file : MemoryFile) (more : Bytes) : MemoryFile :=
  { file with content := file.content ++ more }

@[simp]
theorem bytes_append (file : MemoryFile) (more : Bytes) :
    (file.append more).bytes = file.bytes ++ more := by
  simp [append, bytes]

/-- The file cut to a length. -/
def truncate (file : MemoryFile) (length : Nat) : MemoryFile :=
  { file with content := file.content.take length }

@[simp]
theorem bytes_truncate (file : MemoryFile) (length : Nat) :
    (file.truncate length).bytes = file.bytes.take length := by
  simp [truncate, bytes]

end MemoryFile

end RemoteTail.Simulation

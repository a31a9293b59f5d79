import RemoteTail.Bytes

/-!
# Lines and fragments

A `Line` is a stretch of a file together with its position.  A terminated line
owns the terminator that follows its message; a fragment is a leading piece of
a line that is too long for one read, and owns its message only.
-/

namespace RemoteTail

/-- A terminated line of a file, or a fragment of one. -/
structure Line where
  /-- The octets of the line, terminator excluded. -/
  message : Bytes
  /-- Position in the file of the first message octet. -/
  offset : Nat
  /-- Whether a terminator follows the message; a fragment has none. -/
  terminated : Bool
deriving DecidableEq, Repr

namespace Line

/-- Length of the message in octets. -/
def size (line : Line) : Nat :=
  line.message.length

/-- Octets the line occupies in the file, terminator included. -/
def span (line : Line) : Nat :=
  line.size + if line.terminated then 1 else 0

/-- Octets that lines occupy together. -/
def spans (lines : List Line) : Nat :=
  lines.foldr (fun line total => line.span + total) 0

@[simp]
theorem spans_nil : spans [] = 0 :=
  rfl

@[simp]
theorem spans_cons (line : Line) (lines : List Line) :
    spans (line :: lines) = line.span + spans lines :=
  rfl

/-- The octets the line occupies in the file. -/
def bytes (line : Line) : Bytes :=
  line.message ++ if line.terminated then [newline] else []

@[simp]
theorem length_bytes (line : Line) : line.bytes.length = line.span := by
  cases h : line.terminated <;> simp [bytes, span, size, h]

/-- Position right after the line. -/
def stop (line : Line) : Nat :=
  line.offset + line.span

end Line

end RemoteTail

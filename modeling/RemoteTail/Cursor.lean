import RemoteTail.Cursor.Config
import RemoteTail.Sandbox
import RemoteTail.Tail.Search

/-!
# Cursors

A cursor hands out the lines of a remote file one by one, written by its
formatter.  It owns the position of its next read, the lines of the last chunk
that are still to be handed out, and a count.  A pull makes one read at most
and never waits for new content.

The state changes in two pure steps only: `absorb` takes in a chunk, `pop`
hands out the first line of the buffer.
-/

namespace RemoteTail

/-- A reader of one remote file. -/
structure Cursor where
  /-- The file. -/
  file : RemoteFile
  /-- How lines are written. -/
  formatter : Formatter
  /-- How the file is read. -/
  config : ReadConfig
  /-- Position of the next read. -/
  offset : Nat
  /-- Lines that have been read and not handed out. -/
  buffer : List Line := []
  /-- Number of terminated lines handed out. -/
  emitted : Nat := 0

/-- What a pull gives: a block, the end of the data, or an error. -/
abbrev Pulled := Except Error (Option Bytes)

/-- The most octets by which an endpoint shortens a window to keep its last character whole. -/
def maxCharTrim : Nat :=
  3

/-- Whether so many octets are a full window, a shortened one included. -/
def fillsWindow (length chunkSize : Nat) : Bool :=
  chunkSize ≤ length || (maxCharTrim < length && chunkSize ≤ length + maxCharTrim)

namespace Cursor

/-- Whether the limit is in force and has been reached. -/
def limitReached (c : Cursor) : Bool :=
  !c.config.stream && c.config.maxLines ≤ c.emitted

/-- The lines that a chunk read at `offset` gives: its terminated lines, or else, if it fills the
window, all of it as a fragment of a line that is longer than a window. -/
def chunkLines (data : Bytes) (offset chunkSize : Nat) : List Line :=
  let lines := (split data offset .forward).lines
  if lines.isEmpty && fillsWindow data.length chunkSize then [⟨data, offset, false⟩] else lines

/-- The cursor after a chunk has been read at its offset.  What follows the last line will be read
again. -/
def absorb (c : Cursor) (chunk : Chunk) : Cursor :=
  let lines := chunkLines chunk.data c.offset c.config.chunkSize
  { c with
    offset := c.offset + Line.spans lines
    buffer := c.buffer ++ lines }

/-- Hands out the first line of the buffer.  Fragments count with the piece that ends their
line. -/
def pop (c : Cursor) : Pulled × Cursor :=
  match c.buffer with
  | [] => (.ok none, c)
  | line :: buffer =>
    let popped :=
      { c with buffer := buffer, emitted := if line.terminated then c.emitted + 1 else c.emitted }
    match c.formatter.line line with
    | .error error => (.error (.format error), popped)
    | .ok block => (.ok (some block), popped)

/-- A pull once its read has been answered. -/
def resume (c : Cursor) : Reply → Pulled × Cursor
  | .error error => (.error (.fetch error), c)
  | .ok chunk => (c.absorb chunk).pop

variable {m : Type → Type} [Monad m]

/-- The next block, or `none` at the end of the data.  The pull is not complete while its read is
outstanding. -/
def pull (c : Cursor) (endpoint : Endpoint m) : m (Option (Pulled × Cursor)) := do
  if c.limitReached then return some (.ok none, c)
  else if c.buffer.isEmpty then
    let reply ← c.file.fetch endpoint c.offset c.config.chunkSize
    return reply.map c.resume
  else return some c.pop

/-- When a pull is told to give up. -/
inductive Cancellation where
  /-- Before the pull begins. -/
  | before
  /-- As soon as the pull has to wait. -/
  | waiting
  /-- Never. -/
  | never
deriving DecidableEq, Repr

/-- A pull that may be told to give up.  An abandoned pull leaves the cursor as it was. -/
def pullUntil (c : Cursor) (endpoint : Endpoint m) (cancellation : Cancellation) :
    m (Option (Pulled × Cursor)) := do
  match cancellation with
  | .before => return some (.error .cancelled, c)
  | .never => c.pull endpoint
  | .waiting => return some ((← c.pull endpoint).getD (.error .cancelled, c))

/-- A cursor on a file of the sandbox at the given coordinates.  Everything that can be checked
without a read is checked first; to start at the last lines, these are searched for. -/
def start (endpoint : Endpoint m) (coordinates : TaskCoordinates) (file : String)
    (formatter : Formatter) (config : ReadConfig) : m (Option (Except Error Cursor)) := do
  let checked := do
    coordinates.validate
    if file.isEmpty then .error (.emptyCoordinate "file") else config.validate
  let remote : RemoteFile := ⟨coordinates.filePath file, config.headers⟩
  let cursorAt := fun offset => ({ file := remote, formatter, config, offset } : Cursor)
  match checked, config.direction with
  | .error error, _ => return some (.error error)
  | .ok (), .topToBottom => return some (.ok (cursorAt 0))
  | .ok (), .bottomToTop =>
    match ← remote.locateTail endpoint config.maxLines config.chunkSize 0 with
    | none => return none
    | some (.error error) => return some (.error (.fetch error))
    | some (.ok offset) => return some (.ok (cursorAt offset))

end Cursor

end RemoteTail

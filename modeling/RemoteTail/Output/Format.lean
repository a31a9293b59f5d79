import RemoteTail.Line
import RemoteTail.Text.Utf8
import RemoteTail.Output.Journal

/-!
# Output formats

Lines and journal entries are written as plain text, as one JSON object per
line, or as server-sent events.  A `Formatter` is any way to write them that
may refuse; the named formats never do.
-/

namespace RemoteTail

/-- A line or an entry could not be written. -/
inductive FormatError where
  /-- The JSON form could not be produced. -/
  | encoding (reason : String)
deriving DecidableEq, Repr

/-- The wording of a format error. -/
def FormatError.message : FormatError → String
  | .encoding reason => "json encoding failed: " ++ reason

/-- A way to write lines and entries. -/
structure Formatter where
  /-- The media type of the output. -/
  contentType : String
  /-- The block that shows a line. -/
  line : Line → Except FormatError Bytes
  /-- The block that shows a journal entry. -/
  entry : JournalEntry → Except FormatError Bytes

/-- The output formats that have a name. -/
inductive OutputFormat where
  /-- Plain text, one line per record. -/
  | text
  /-- One JSON object per line. -/
  | json
  /-- Server-sent events. -/
  | sse
deriving DecidableEq, Repr

/-- The JSON record of a line.  Octets that are not UTF-8 are replaced, and only a fragment says
that it is partial. -/
def Line.json (line : Line) : List Char :=
  Json.objectText <|
    [("message", Json.stringText (Utf8.lossy line.message)),
      ("offset", Decimal.digits line.offset), ("size", Decimal.digits line.size)] ++
      if line.terminated then [] else [("partial", "true".toList)]

/-- A JSON text on a line of its own. -/
def jsonBlock (text : List Char) : Bytes :=
  Bytes.ofChars text ++ [newline]

/-- A JSON text as the data of a server-sent event. -/
def eventBlock (text : List Char) : Bytes :=
  Bytes.ofString "data: " ++ Bytes.ofChars text ++ [newline, newline]

namespace OutputFormat

/-- The media type of a format. -/
def contentType : OutputFormat → String
  | .text => "text/plain"
  | .json => "application/json"
  | .sse => "text/event-stream"

/-- The block that shows a line. -/
def lineBlock : OutputFormat → Line → Bytes
  | .text, line => line.bytes
  | .json, line => jsonBlock line.json
  | .sse, line => eventBlock line.json

/-- The block that shows a journal entry. -/
def entryBlock : OutputFormat → JournalEntry → Bytes
  | .text, entry => Bytes.ofString entry.text
  | .json, entry => jsonBlock entry.json
  | .sse, entry => eventBlock entry.json

/-- The formatter of a named format. -/
def formatter (format : OutputFormat) : Formatter where
  contentType := format.contentType
  line := fun line => .ok (format.lineBlock line)
  entry := fun entry => .ok (format.entryBlock entry)

end OutputFormat

end RemoteTail

import RemoteTail.Cursor.Config
import RemoteTail.Json.Record
import RemoteTail.Json.Writer
import RemoteTail.Text.Utf8

/-!
# Settings

What a user keeps in a settings file: the endpoint, headers for every request,
the read window and the time between polls.  A file counts as a whole or not at
all: each field that it lacks has its default, and a file with any fault gives
the defaults alone.
-/

namespace RemoteTail

/-- The endpoint that is asked unless another one is given. -/
def defaultEndpoint : String :=
  "http://127.0.0.1:5051/files/read"

/-- The milliseconds between two polls, unless another number is given. -/
def defaultPollInterval : Nat :=
  500

/-- The settings of a user. -/
structure Settings where
  /-- The URL of the endpoint. -/
  endpoint : String := defaultEndpoint
  /-- Headers of every request. -/
  headers : TextMap := ∅
  /-- The octets that are asked for in one read. -/
  chunkSize : Nat := defaultChunkSize
  /-- The milliseconds between two polls of a followed file. -/
  pollInterval : Nat := defaultPollInterval
deriving DecidableEq, Repr

namespace Settings

/-- The settings without a file. -/
def defaults : Settings :=
  {}

/-- The fields of a settings file, as far as they have been read. -/
structure Draft where
  /-- The field `endpoint`. -/
  endpoint : Option String
  /-- The field `headers`. -/
  headers : Option TextMap
  /-- The field `chunk_size`. -/
  chunkSize : Option Nat
  /-- The field `poll_interval_ms`. -/
  pollInterval : Option Nat
deriving DecidableEq, Repr

/-- The settings in which every field that is absent has its default. -/
def Draft.fill (draft : Draft) : Settings where
  endpoint := draft.endpoint.getD defaults.endpoint
  headers := draft.headers.getD defaults.headers
  chunkSize := draft.chunkSize.getD defaults.chunkSize
  pollInterval := draft.pollInterval.getD defaults.pollInterval

/-- How settings are read. -/
def record : Json.RecordReader Draft Settings where
  start := ⟨none, none, none, none⟩
  fields :=
    [{ name := "endpoint"
       isRead := fun draft => draft.endpoint.isSome
       read := fun draft text =>
        (Json.readText text).map fun (value, rest) =>
          ({ draft with endpoint := some value }, rest) },
     { name := "headers"
       isRead := fun draft => draft.headers.isSome
       read := fun draft text =>
        (Json.readTextMap text).map fun (value, rest) =>
          ({ draft with headers := some value }, rest) },
     { name := "chunk_size"
       isRead := fun draft => draft.chunkSize.isSome
       read := fun draft text =>
        (Json.readWord text).map fun (value, rest) =>
          ({ draft with chunkSize := some value }, rest) },
     { name := "poll_interval_ms"
       isRead := fun draft => draft.pollInterval.isSome
       read := fun draft text =>
        (Json.readWord text).map fun (value, rest) =>
          ({ draft with pollInterval := some value }, rest) }]
  finish := fun draft => some draft.fill

/-- The settings that the octets of a file spell.  The whole file has to be UTF-8. -/
def decode (file : Bytes) : Except Json.Fault Settings :=
  if (Utf8.decode? file).isNone then .error .malformed else record.readDocument file

/-- The settings of a file; a faulty file counts as none. -/
def ofFile (file : Bytes) : Settings :=
  (decode file).toOption.getD defaults

/-- The settings with the endpoint that the environment names; an empty one names none. -/
def override (settings : Settings) (environment : Option String) : Settings :=
  match environment with
  | none => settings
  | some endpoint => if endpoint.isEmpty then settings else { settings with endpoint }

/-- The settings that hold for a file, if there is one, and an environment. -/
def load (file : Option Bytes) (environment : Option String) : Settings :=
  ((file.map ofFile).getD defaults).override environment

/-- The request headers that the settings ask for. -/
def requestHeaders (settings : Settings) : Except Error Headers :=
  Header.ofPairs settings.headers.entries

/-- The compact JSON form, fields in declaration order and header names by increasing code points. -/
def json (settings : Settings) : List Char :=
  Json.objectText
    [("endpoint", Json.stringText settings.endpoint.toList),
      ("headers", Json.objectText (settings.headers.entries.map fun header =>
        (header.1, Json.stringText header.2.toList))),
      ("chunk_size", Decimal.digits settings.chunkSize),
      ("poll_interval_ms", Decimal.digits settings.pollInterval)]

/-- The indented JSON form, in the same order. -/
def indentedJson (settings : Settings) : List Char :=
  Json.objectLines 0
    [("endpoint", Json.stringText settings.endpoint.toList),
      ("headers", Json.objectLines 1 (settings.headers.entries.map fun header =>
        (header.1, Json.stringText header.2.toList))),
      ("chunk_size", Decimal.digits settings.chunkSize),
      ("poll_interval_ms", Decimal.digits settings.pollInterval)]

end Settings

end RemoteTail

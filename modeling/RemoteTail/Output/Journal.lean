import RemoteTail.Json.Record
import RemoteTail.Json.Writer
import RemoteTail.Time.Civil

/-!
# Journal entries

A journal entry carries named text fields, a cursor token and two timestamps in
microseconds.  It has a one-line text form, for entries with a message, and a
JSON form.
-/

namespace RemoteTail

/-- A record of a system journal. -/
structure JournalEntry where
  /-- The fields by name. -/
  fields : TextMap
  /-- The position of the entry in its journal. -/
  cursor : String
  /-- Microseconds since the machine started. -/
  monotonicTimestamp : Nat
  /-- Microseconds since 1970-01-01 00:00:00 UTC. -/
  realtimeTimestamp : Nat
deriving DecidableEq, Repr

namespace JournalEntry

/-- The words of the text form: time, host, program, process and message, without those that
the entry lacks.  An entry without a message has none. -/
def words? (entry : JournalEntry) : Option (List String) :=
  (entry.fields.get? "MESSAGE").map fun message =>
    [some (Time.instantText entry.realtimeTimestamp), entry.fields.get? "_HOSTNAME",
      entry.fields.get? "SYSLOG_IDENTIFIER",
      (entry.fields.get? "_PID").map fun process => "[" ++ process ++ "]",
      some message].filterMap id

/-- The text form, a line of its own; empty for an entry without a message. -/
def text (entry : JournalEntry) : String :=
  match entry.words? with
  | none => ""
  | some words => String.intercalate " " words ++ "\n"

/-- The fields of an entry, as far as they have been read. -/
structure Draft where
  /-- The field `fields`. -/
  fields : Option TextMap
  /-- The field `cursor`. -/
  cursor : Option String
  /-- The field `monotonic_timestamp`. -/
  monotonicTimestamp : Option Nat
  /-- The field `realtime_timestamp`. -/
  realtimeTimestamp : Option Nat
deriving DecidableEq, Repr

/-- How an entry is read. -/
def record : Json.RecordReader Draft JournalEntry where
  start := ⟨none, none, none, none⟩
  fields :=
    [{ name := "fields"
       isRead := fun draft => draft.fields.isSome
       read := fun draft text =>
        (Json.readTextMap text).map fun (value, rest) =>
          ({ draft with fields := some value }, rest) },
     { name := "cursor"
       isRead := fun draft => draft.cursor.isSome
       read := fun draft text =>
        (Json.readText text).map fun (value, rest) => ({ draft with cursor := some value }, rest) },
     { name := "monotonic_timestamp"
       isRead := fun draft => draft.monotonicTimestamp.isSome
       read := fun draft text =>
        (Json.readWord text).map fun (value, rest) =>
          ({ draft with monotonicTimestamp := some value }, rest) },
     { name := "realtime_timestamp"
       isRead := fun draft => draft.realtimeTimestamp.isSome
       read := fun draft text =>
        (Json.readWord text).map fun (value, rest) =>
          ({ draft with realtimeTimestamp := some value }, rest) }]
  finish := fun draft => do
    let fields ← draft.fields
    let cursor ← draft.cursor
    let monotonicTimestamp ← draft.monotonicTimestamp
    let realtimeTimestamp ← draft.realtimeTimestamp
    some { fields, cursor, monotonicTimestamp, realtimeTimestamp }

/-- The entry that a JSON text spells. -/
def decode (text : Bytes) : Except Json.Fault JournalEntry :=
  record.readDocument text

/-- The JSON form, fields in declaration order and keys by increasing code points. -/
def json (entry : JournalEntry) : List Char :=
  Json.objectText
    [("fields", Json.objectText (entry.fields.entries.map fun field =>
        (field.1, Json.stringText field.2.toList))),
      ("cursor", Json.stringText entry.cursor.toList),
      ("monotonic_timestamp", Decimal.digits entry.monotonicTimestamp),
      ("realtime_timestamp", Decimal.digits entry.realtimeTimestamp)]

end JournalEntry

end RemoteTail

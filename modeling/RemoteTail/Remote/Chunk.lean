import RemoteTail.Error
import RemoteTail.Json.Record

/-!
# Read responses

The answer to a read is a chunk: data and an offset.  On the wire it is a JSON
record with a text and a signed 64-bit integer.
-/

namespace RemoteTail

/-- The answer to a read.  For a size read, the offset is the size of the file. -/
structure Chunk where
  /-- The octets that were read. -/
  data : Bytes
  /-- Position in the file of the first of them. -/
  offset : Nat
deriving DecidableEq, Repr

/-- What a read leads to. -/
abbrev Reply := Except FetchError Chunk

namespace Chunk

/-- The fields of a read response, as far as they have been read. -/
structure Draft where
  /-- The field `data`. -/
  data : Option String
  /-- The field `offset`. -/
  offset : Option Int
deriving DecidableEq, Repr

/-- How a read response is read. -/
def record : Json.RecordReader Draft (String × Int) where
  start := ⟨none, none⟩
  fields :=
    [{ name := "data"
       isRead := fun draft => draft.data.isSome
       read := fun draft text =>
        (Json.readText text).map fun (value, rest) => ({ draft with data := some value }, rest) },
     { name := "offset"
       isRead := fun draft => draft.offset.isSome
       read := fun draft text =>
        (Json.readInt (-0x8000000000000000) 0x7FFFFFFFFFFFFFFF text).map fun (value, rest) =>
          ({ draft with offset := some value }, rest) }]
  finish := fun draft => do
    let data ← draft.data
    let offset ← draft.offset
    some (data, offset)

/-- The chunk in the body of an answer. -/
def decode (body : Bytes) : Reply :=
  match record.readDocument body with
  | .error fault => .error (.decode fault)
  | .ok (data, offset) =>
    if offset < 0 then .error (.invalidOffset offset)
    else .ok { data := Bytes.ofString data, offset := offset.toNat }

/-- The body of an answer that carries a chunk. -/
def encode (chunk : Chunk) : Bytes :=
  Bytes.ofChars <| Json.objectText
    [("data", Json.stringText (Utf8.lossy chunk.data)), ("offset", Decimal.digits chunk.offset)]

end Chunk

end RemoteTail

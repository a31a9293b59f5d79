import RemoteTail.Remote.Chunk
import RemoteTail.Remote.Header

/-!
# Read requests

A remote file is read through requests for a range of octets or for its size.
An endpoint answers requests; it runs in a monad of its own, and a request that
it leaves unanswered has no reply.
-/

namespace RemoteTail

/-- What a read asks for. -/
inductive ReadRange where
  /-- The size of the file, and no data. -/
  | size
  /-- Up to `length` octets from `offset` on. -/
  | bytes (offset length : Nat)
deriving DecidableEq, Repr

/-- A file behind an endpoint, with the headers that go with every request. -/
structure RemoteFile where
  /-- Path of the file on the remote side. -/
  path : String
  /-- Headers of every request. -/
  headers : Headers
deriving DecidableEq, Repr

/-- One read of a remote file. -/
structure Request where
  /-- The file. -/
  file : RemoteFile
  /-- What is asked for. -/
  range : ReadRange
deriving DecidableEq, Repr

namespace Request

/-- The parameters of the range in wire order.  A size read asks at offset -1 without a length. -/
def rangeQuery : ReadRange → List (String × String)
  | .size => [("offset", "-1")]
  | .bytes offset length => [("offset", Decimal.text offset), ("length", Decimal.text length)]

/-- The query parameters in wire order. -/
def query (request : Request) : List (String × String) :=
  ("path", request.file.path) :: rangeQuery request.range

end Request

/-- Something that answers read requests; `none` while an answer is outstanding. -/
structure Endpoint (m : Type → Type) where
  /-- Puts a request. -/
  read : Request → m (Option Reply)

namespace RemoteFile

variable {m : Type → Type} [Monad m]

/-- Reads up to `length` octets from `offset` on. -/
def fetch (file : RemoteFile) (endpoint : Endpoint m) (offset length : Nat) : m (Option Reply) :=
  endpoint.read ⟨file, .bytes offset length⟩

/-- Asks for the size of the file. -/
def fileSize (file : RemoteFile) (endpoint : Endpoint m) :
    m (Option (Except FetchError Nat)) := do
  let reply ← endpoint.read ⟨file, .size⟩
  return reply.map fun answered => answered.map Chunk.offset

end RemoteFile

end RemoteTail

import RemoteTail.Json.Fault
import RemoteTail.Json.Writer
import RemoteTail.Output.Format
import RemoteTail.Remote.Status
import RemoteTail.Text.Quotation

/-!
# Errors

`FetchError` covers a single read; `Error` covers everything that can go wrong
while a cursor is built and used.
-/

namespace RemoteTail

/-- Why a read failed. -/
inductive FetchError where
  /-- No complete answer came. -/
  | transport
  /-- The answer has a status other than success. -/
  | status (status : Status)
  /-- The body of the answer is not a read response. -/
  | decode (fault : Json.Fault)
  /-- The answer gives a negative offset. -/
  | invalidOffset (offset : Int)
deriving DecidableEq, Repr

/-- The wording of a fetch error. -/
def FetchError.message : FetchError → String
  | .transport => "read request failed"
  | .status received => "bad status " ++ received.text
  | .decode _ => "malformed read response"
  | .invalidOffset offset =>
    "invalid offset " ++ String.ofList (Json.intText offset) ++ " in read response"

/-- Why a cursor cannot be built or a pull gives no block. -/
inductive Error where
  /-- A required coordinate is empty. -/
  | emptyCoordinate (name : String)
  /-- The line limit is zero. -/
  | invalidMaxLines
  /-- The read window is empty. -/
  | invalidChunkSize
  /-- A read failed. -/
  | fetch (error : FetchError)
  /-- A line could not be written. -/
  | format (error : FormatError)
  /-- A request header is not valid. -/
  | invalidHeader (name : String)
  /-- The pull was abandoned before its read was complete. -/
  | cancelled
deriving DecidableEq, Repr

namespace Error

/-- The wording of an error. -/
def message : Error → String
  | .emptyCoordinate name => name ++ " cannot be empty"
  | .invalidMaxLines => "max lines must be positive"
  | .invalidChunkSize => "chunk size must be positive"
  | .fetch error => error.message
  | .format error => error.message
  | .invalidHeader name => "invalid header " ++ Quotation.text name
  | .cancelled => "read cancelled"

/-- Whether an error comes from a read. -/
def isFetch : Error → Bool
  | .fetch _ => true
  | _ => false

end Error

end RemoteTail

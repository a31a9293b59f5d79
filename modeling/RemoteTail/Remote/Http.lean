import RemoteTail.Remote.Request
import RemoteTail.Url

/-!
# Reads over HTTP

A read request is put to a URL as a GET request: the parameters of the read
follow the query of the URL.  A read succeeds with status 200 and a body that
is a read response; any other final status counts for more than the body.
-/

namespace RemoteTail

/-- A read request put to a URL. -/
structure HttpRequest where
  /-- The URL. -/
  url : WebUrl
  /-- What is to be read. -/
  read : Request
deriving DecidableEq, Repr

namespace HttpRequest

/-- The path and the query that are asked for. -/
def target (request : HttpRequest) : String :=
  request.url.target request.read.query

/-- The headers of a request unless the reader sets them. -/
def defaultHeaders (url : WebUrl) : Headers :=
  let accepting := (∅ : Headers).insert "accept" "*/*"
  match url.authorization? with
  | none => accepting
  | some authorization => accepting.insert "authorization" authorization

/-- The headers of the request, apart from those that belong to the connection.  The request has no
body, so it names no coding of one. -/
def headers (request : HttpRequest) : Headers :=
  ((defaultHeaders request.url).extend request.read.file.headers).erase "transfer-encoding"

/-- The greatest length of the URL of a request. -/
def maxUrlLength : Nat :=
  65534

/-- Whether a character of a host may stand in the URL of a request. -/
def isHostChar (c : Char) : Bool :=
  !("\"\x60\x7b\x7d".toList.contains c)

/-- Whether the request can be sent. -/
def isSendable (request : HttpRequest) : Bool :=
  (request.url.textWith request.read.query).length ≤ maxUrlLength &&
    request.url.host.text.toList.all isHostChar

end HttpRequest

/-- How an HTTP request ends. -/
inductive HttpOutcome where
  /-- No answer came. -/
  | unanswered
  /-- An answer came; it has no body if the body broke off. -/
  | answered (status : Status) (body : Option Bytes)
deriving DecidableEq, Repr

/-- What the outcome of a request means to a reader. -/
def HttpOutcome.reply : HttpOutcome → Reply
  | .unanswered => .error .transport
  | .answered status body =>
    if !status.isFinal then .error .transport
    else if status = .success then
      match body with
      | none => .error .transport
      | some octets => Chunk.decode octets
    else .error (.status status)

/-- The endpoint behind a URL, on which requests are exchanged by `exchange`, secured or not as the
scheme says.  Nothing can be read in a scheme that is not one of HTTP, nor by a request that cannot
be sent. -/
def Url.endpoint {m : Type → Type} [Monad m] (url : Url)
    (exchange : HttpRequest → m (Option HttpOutcome)) : Endpoint m where
  read := fun request =>
    match url with
    | .other _ => return some (.error .transport)
    | .http url =>
      if (HttpRequest.mk url request).isSendable then do
        let outcome ← exchange ⟨url, request⟩
        return outcome.map HttpOutcome.reply
      else return some (.error .transport)

end RemoteTail

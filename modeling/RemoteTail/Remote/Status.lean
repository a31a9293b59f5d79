import RemoteTail.Text.Decimal

/-!
# Answer statuses

The status of an HTTP answer, a number of three digits, with its reason phrase
if it has one.
-/

namespace RemoteTail

/-- The status of an answer. -/
structure Status where
  /-- The code. -/
  code : Nat
deriving DecidableEq, Repr

namespace Status

/-- The one status with which a read succeeds. -/
def success : Status :=
  ⟨200⟩

/-- The status of a server that cannot answer for now. -/
def unavailable : Status :=
  ⟨503⟩

/-- Whether a status ends an exchange.  Below 200 only a change of protocols does; the other statuses
there announce a later answer, and codes without three digits are none. -/
def isFinal (status : Status) : Bool :=
  status.code = 101 || (200 ≤ status.code && status.code < 1000)

/-- Whether a status announces a later answer to the same request. -/
def isProvisional (status : Status) : Bool :=
  100 ≤ status.code && status.code < 200 && status.code ≠ 101

/-- The reason phrase of a code. -/
def reason? (status : Status) : Option String :=
  match status.code with
  | 100 => some "Continue"
  | 101 => some "Switching Protocols"
  | 102 => some "Processing"
  | 103 => some "Early Hints"
  | 200 => some "OK"
  | 201 => some "Created"
  | 202 => some "Accepted"
  | 203 => some "Non Authoritative Information"
  | 204 => some "No Content"
  | 205 => some "Reset Content"
  | 206 => some "Partial Content"
  | 207 => some "Multi-Status"
  | 208 => some "Already Reported"
  | 226 => some "IM Used"
  | 300 => some "Multiple Choices"
  | 301 => some "Moved Permanently"
  | 302 => some "Found"
  | 303 => some "See Other"
  | 304 => some "Not Modified"
  | 305 => some "Use Proxy"
  | 307 => some "Temporary Redirect"
  | 308 => some "Permanent Redirect"
  | 400 => some "Bad Request"
  | 401 => some "Unauthorized"
  | 402 => some "Payment Required"
  | 403 => some "Forbidden"
  | 404 => some "Not Found"
  | 405 => some "Method Not Allowed"
  | 406 => some "Not Acceptable"
  | 407 => some "Proxy Authentication Required"
  | 408 => some "Request Timeout"
  | 409 => some "Conflict"
  | 410 => some "Gone"
  | 411 => some "Length Required"
  | 412 => some "Precondition Failed"
  | 413 => some "Payload Too Large"
  | 414 => some "URI Too Long"
  | 415 => some "Unsupported Media Type"
  | 416 => some "Range Not Satisfiable"
  | 417 => some "Expectation Failed"
  | 418 => some "I'm a teapot"
  | 421 => some "Misdirected Request"
  | 422 => some "Unprocessable Entity"
  | 423 => some "Locked"
  | 424 => some "Failed Dependency"
  | 425 => some "Too Early"
  | 426 => some "Upgrade Required"
  | 428 => some "Precondition Required"
  | 429 => some "Too Many Requests"
  | 431 => some "Request Header Fields Too Large"
  | 451 => some "Unavailable For Legal Reasons"
  | 500 => some "Internal Server Error"
  | 501 => some "Not Implemented"
  | 502 => some "Bad Gateway"
  | 503 => some "Service Unavailable"
  | 504 => some "Gateway Timeout"
  | 505 => some "HTTP Version Not Supported"
  | 506 => some "Variant Also Negotiates"
  | 507 => some "Insufficient Storage"
  | 508 => some "Loop Detected"
  | 510 => some "Not Extended"
  | 511 => some "Network Authentication Required"
  | _ => none

/-- The code and the reason phrase. -/
def text (status : Status) : String :=
  Decimal.text status.code ++ " " ++ status.reason?.getD "<unknown status code>"

end Status

end RemoteTail

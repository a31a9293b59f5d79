import RemoteTail.Remote.Http
import RemoteTail.Text.Blank

/-!
# HTTP messages

A request is written as the head of an HTTP/1.1 message, after which the
connection is to be closed.  An answer is everything that comes until then:
heads of provisional answers, which say nothing yet, then a head, and a body
whose end is given by a length, by chunks or by the close.
-/

namespace RemoteTail

namespace HttpRequest

/-- All headers of the request, those of the connection included. -/
def wireHeaders (request : HttpRequest) : Headers :=
  ((∅ : Headers).insert "host" request.url.hostAndPort).extend request.headers
    |>.insert "connection" "close"

/-- The request as a message. -/
def encode (request : HttpRequest) : Bytes :=
  let lines := ("GET " ++ request.target ++ " HTTP/1.1") ::
    request.wireHeaders.entries.map fun header => header.1 ++ ": " ++ header.2
  (lines.flatMap fun line => Bytes.ofString (line ++ "\r\n")) ++ Bytes.ofString "\r\n"

end HttpRequest

namespace HttpOutcome

/-- The first line of a text, without the octets that end it, and what follows; nothing if no line
is complete. -/
def line? : Bytes → Option (Bytes × Bytes)
  | [] => none
  | octet :: rest =>
    if octet = newline then some ([], rest)
    else (line? rest).map fun (line, rest) =>
      (if octet = 0x0D && line.isEmpty then line else octet :: line, rest)

theorem length_line? {octets line rest : Bytes} (h : line? octets = some (line, rest)) :
    rest.length < octets.length := by
  induction octets generalizing line with
  | nil => simp [line?] at h
  | cons octet octets ih =>
    unfold line? at h
    split at h
    · cases h; simp
    · rcases hline : line? octets with _ | ⟨inner, after⟩
      · simp [hline] at h
      · simp only [hline, Option.map_some, Option.some.injEq, Prod.mk.injEq] at h
        have := ih (h.2 ▸ hline)
        simp only [List.length_cons]
        omega

/-- The lines up to an empty one, and what follows that. -/
def head? (octets : Bytes) : Option (List Bytes × Bytes) :=
  match _found : line? octets with
  | none => none
  | some (line, rest) =>
    if line.isEmpty then some ([], rest)
    else (head? rest).map fun (lines, body) => (line :: lines, body)
termination_by octets.length
decreasing_by exact length_line? _found

theorem length_head? {octets rest : Bytes} {lines : List Bytes}
    (h : head? octets = some (lines, rest)) : rest.length < octets.length := by
  fun_induction head? octets generalizing lines with
  | case1 => simp at h
  | case2 octets line after hline =>
    cases h
    exact length_line? hline
  | case3 octets line after hline _ ih =>
    obtain ⟨inner, hinner, heq⟩ := Option.map_eq_some_iff.mp h
    cases heq
    exact Nat.lt_trans (ih hinner) (length_line? hline)

/-- The status in the first line of an answer: three digits between the version and the reason. -/
def status? (line : Bytes) : Option Status :=
  let text := Utf8.lossy line
  let code := ((text.dropWhile (· ≠ ' ')).drop 1).takeWhile (· ≠ ' ')
  if "HTTP/1.".toList.isPrefixOf text && code.length = 3 then (Decimal.value? code).map Status.mk
  else none

/-- The value of a header among the lines of a head. -/
def header? (name : String) (lines : List Bytes) : Option (List Char) :=
  lines.findSome? fun line =>
    let text := Utf8.lossy line
    let isNamed := (text.takeWhile (· ≠ ':')).map Char.toLower = name.toList
    if isNamed then some (Blank.trimChars ((text.dropWhile (· ≠ ':')).drop 1)) else none

/-- The octets of a body that is sent in chunks, each after a line with its length; a chunk of
length zero ends them.  At most `limit` chunks are taken. -/
def chunks? : (limit : Nat) → Bytes → Option Bytes
  | 0, _ => none
  | limit + 1, octets => do
    let (line, rest) ← line? octets
    let length ← Host.numeral? (1 <<< 64) 16 ((Utf8.lossy line).takeWhile fun c => c ≠ ';' && c ≠ ' ')
    if length = 0 then some []
    else if rest.length < length then none
    else
      let (_, next) ← line? (rest.drop length)
      let more ← chunks? limit next
      some (rest.take length ++ more)

/-- The body of an answer with the given head, unless it broke off. -/
def body? (lines : List Bytes) (octets : Bytes) : Option Bytes :=
  if (header? "transfer-encoding" lines).map (·.map Char.toLower) = some "chunked".toList then
    chunks? octets.length octets
  else
    match (header? "content-length" lines).bind Decimal.value? with
    | none => some octets
    | some length => if octets.length < length then none else some (octets.take length)

/-- What the octets that came until the connection was closed amount to. -/
def decode (octets : Bytes) : HttpOutcome :=
  match _found : head? octets with
  | some (first :: lines, rest) =>
    match status? first with
    | none => .unanswered
    | some status =>
      if status.isProvisional then decode rest else .answered status (body? lines rest)
  | _ => .unanswered
termination_by octets.length
decreasing_by exact length_head? _found

end HttpOutcome

end RemoteTail

import RemoteTail.Json.Token

/-!
# Skipping a JSON value

A value of any depth is passed over token by token.  The state of the walk is
the stack of brackets that are open and what may come next.
-/

namespace RemoteTail.Json

/-- What may come next inside a value that is being skipped. -/
inductive Awaited where
  /-- A value. -/
  | value
  /-- The first element of the innermost brackets, or their closing. -/
  | first
  /-- A key. -/
  | key
  /-- The colon after a key. -/
  | colon
  /-- A comma, or the closing of the innermost brackets. -/
  | next
deriving DecidableEq, Repr

/-- A place inside a value that is being skipped. -/
structure Place where
  /-- The brackets that are open, the innermost first. -/
  opened : List Shape
  /-- What may come next. -/
  awaited : Awaited
deriving DecidableEq, Repr

namespace Place

/-- The place after a complete value; `none` once the outermost value is complete. -/
def afterValue : List Shape → Option Place
  | [] => none
  | opened => some ⟨opened, .next⟩

/-- The place after a token where a value is awaited. -/
def takeValue (opened : List Shape) : Token → Except Fault (Option Place)
  | .opening shape => .ok (some ⟨shape :: opened, .first⟩)
  | .word verdict => verdict.map fun _ => afterValue opened
  | .number _ verdict => verdict.map fun _ => afterValue opened
  | .text _ verdict => verdict.map fun _ => afterValue opened
  | _ => .error .malformed

/-- The place after a token where a key is awaited. -/
def takeKey (opened : List Shape) : Token → Except Fault (Option Place)
  | .text _ verdict => verdict.map fun _ => some ⟨opened, .colon⟩
  | _ => .error .malformed

/-- The place after a token where an element of the innermost brackets is awaited. -/
def takeElement (shape : Shape) (opened : List Shape) : Token → Except Fault (Option Place) :=
  match shape with
  | .list => takeValue (shape :: opened)
  | .object => takeKey (shape :: opened)

/-- The place after a token. -/
def step : Place → Token → Except Fault (Option Place)
  | ⟨opened, .value⟩, token => takeValue opened token
  | ⟨opened, .key⟩, token => takeKey opened token
  | ⟨opened, .colon⟩, .colon => .ok (some ⟨opened, .value⟩)
  | ⟨shape :: opened, .first⟩, .closing closed =>
    if closed = shape then .ok (afterValue opened) else .error .malformed
  | ⟨shape :: opened, .first⟩, token => takeElement shape opened token
  | ⟨shape :: opened, .next⟩, .closing closed =>
    if closed = shape then .ok (afterValue opened) else .error .malformed
  | ⟨shape :: opened, .next⟩, .comma =>
    .ok (some ⟨shape :: opened, match shape with | .list => .value | .object => .key⟩)
  | _, _ => .error .malformed

/-- The tokens after the value of which `place` is a part. -/
def leave (place : Place) : List Token → Except Fault (List Token)
  | [] => .error .truncated
  | token :: rest =>
    match place.step token with
    | .error fault => .error fault
    | .ok none => .ok rest
    | .ok (some place) => leave place rest

end Place

/-- The tokens after the value that comes first. -/
def skipValue (text : List Token) : Except Fault (List Token) :=
  Place.leave ⟨[], .value⟩ text

end RemoteTail.Json

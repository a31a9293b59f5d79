import RemoteTail.Json.Skip
import RemoteTail.TextMap

/-!
# Reading records

A record is written as an object with its fields by name, or as a list of its
fields in declaration order.  An object may have further members, whose values
are skipped; a field may not come twice.  The first fault ends the reading.
-/

namespace RemoteTail.Json

/-- A reader takes the tokens of one value and hands on the rest. -/
abbrev Reader (α : Type) := List Token → Except Fault (α × List Token)

/-- The fault of a token where a value of another kind is wanted. -/
def Token.refusal : Token → Fault
  | .opening _ => .mismatch
  | .word (.error fault) => fault
  | .word (.ok _) => .mismatch
  | .number (.error fault) _ => fault
  | .number (.ok _) _ => .mismatch
  | .text (.error fault) _ => fault
  | .text (.ok _) _ => .mismatch
  | _ => .malformed

/-- Reads a string. -/
def readText : Reader String
  | [] => .error .truncated
  | .text value _ :: rest => value.map fun chars => (String.ofList chars, rest)
  | token :: _ => .error token.refusal

/-- Reads an integer within the given bounds. -/
def readInt (least greatest : Int) : Reader Int
  | [] => .error .truncated
  | .number (.ok (.int value)) _ :: rest =>
    if least ≤ value && value ≤ greatest then .ok (value, rest) else .error .mismatch
  | token :: _ => .error token.refusal

/-- Reads an unsigned integer of 64 bits. -/
def readWord : Reader Nat := fun text =>
  (readInt 0 0xFFFFFFFFFFFFFFFF text).map fun (value, rest) => (value.toNat, rest)

/-- Passes the comma before every member or element but the first. -/
def passComma (first : Bool) (text : List Token) : Except Fault (List Token) :=
  if first then .ok text
  else
    match text with
    | [] => .error .truncated
    | .comma :: rest => if rest.isEmpty then .error .truncated else .ok rest
    | _ :: _ => .error .malformed

/-- The next key of an object and the tokens from its colon on, or the tokens after the object. -/
def nextKey (first : Bool) : List Token → Except Fault (Option String × List Token)
  | [] => .error .truncated
  | .closing .object :: rest => .ok (none, rest)
  | text =>
    match passComma first text with
    | .error fault => .error fault
    | .ok (.text key _ :: rest) => key.map fun key => (some (String.ofList key), rest)
    | .ok _ => .error .malformed

/-- Reads the value of a key by `read`, after the colon before it. -/
def afterColon {α : Type} (read : Reader α) : Reader α
  | [] => .error .truncated
  | .colon :: rest => read rest
  | _ :: _ => .error .malformed

/-- Whether a list has another element, and the tokens of that element and beyond, or from the
closing bracket on. -/
def nextElement (first : Bool) : List Token → Except Fault (Bool × List Token)
  | [] => .error .truncated
  | .closing .list :: rest => .ok (false, .closing .list :: rest)
  | text =>
    match passComma first text with
    | .error fault => .error fault
    | .ok (.closing .list :: _) => .error .malformed
    | .ok text => .ok (true, text)

/-- Passes the bracket that closes a list. -/
def closeList : List Token → Except Fault (List Token)
  | [] => .error .truncated
  | .closing .list :: rest => .ok rest
  | _ :: _ => .error .malformed

/-- Reads the members of an object, each from its colon on by `member`.  Every member takes a token
at least, so `limit` is not reached if it is no less than their number. -/
def readMembers {σ : Type} (member : σ → String → Reader σ) :
    (limit : Nat) → (first : Bool) → σ → Reader σ
  | 0, _, _, _ => .error .truncated
  | limit + 1, first, state, text =>
    match nextKey first text with
    | .error fault => .error fault
    | .ok (none, rest) => .ok (state, rest)
    | .ok (some key, rest) =>
      match member state key rest with
      | .error fault => .error fault
      | .ok (state, rest) => readMembers member limit false state rest

/-- Reads an object of texts.  The last value of a key counts. -/
def readTextMap : Reader TextMap
  | [] => .error .truncated
  | .opening .object :: rest =>
    readMembers
      (fun map key text =>
        (afterColon readText text).map fun (value, rest) => (map.insert key value, rest))
      (rest.length + 1) true ∅ rest
  | token :: _ => .error token.refusal

/-- A field of a record that is being read into a state `σ`. -/
structure Field (σ : Type) where
  /-- The name of the field. -/
  name : String
  /-- Whether the field has been read. -/
  isRead : σ → Bool
  /-- Reads the value of the field. -/
  read : σ → Reader σ

/-- How a record of type `α` is read, its fields collected in a state `σ`. -/
structure RecordReader (σ α : Type) where
  /-- No field has been read. -/
  start : σ
  /-- The fields in declaration order. -/
  fields : List (Field σ)
  /-- The record, if the fields that have been read suffice. -/
  finish : σ → Option α

namespace RecordReader

variable {σ α : Type}

/-- Reads one member: a field that has not been read yet, or a value to skip.  A field that comes
again is refused by its key. -/
def readMember (record : RecordReader σ α) (state : σ) (key : String) : Reader σ := fun text =>
  match record.fields.find? (·.name = key) with
  | none => afterColon (fun text => (skipValue text).map fun rest => (state, rest)) text
  | some field =>
    if field.isRead state then .error .mismatch else afterColon (field.read state) text

/-- Reads elements into the fields, until either run out. -/
def readElements : (fields : List (Field σ)) → (first : Bool) → σ → Reader σ
  | [], _, state, text => .ok (state, text)
  | field :: fields, first, state, text =>
    match nextElement first text with
    | .error fault => .error fault
    | .ok (false, rest) => .ok (state, rest)
    | .ok (true, rest) =>
      match field.read state rest with
      | .error fault => .error fault
      | .ok (state, rest) => readElements fields false state rest

/-- The finished record; a record that lacks a field does not have the wanted shape. -/
def complete (record : RecordReader σ α) (state : σ) : Except Fault α :=
  match record.finish state with
  | none => .error .mismatch
  | some value => .ok value

/-- Reads a record. -/
def read (record : RecordReader σ α) : Reader α
  | [] => .error .truncated
  | .opening .object :: text => do
    let (state, rest) ← readMembers record.readMember (text.length + 1) true record.start text
    let value ← record.complete state
    .ok (value, rest)
  | .opening .list :: text => do
    let (state, rest) ← readElements record.fields true record.start text
    let value ← record.complete state
    let rest ← closeList rest
    .ok (value, rest)
  | token :: _ => .error token.refusal

/-- Reads a text that is a record and nothing more. -/
def readDocument (record : RecordReader σ α) (text : Bytes) : Except Fault α := do
  let (value, rest) ← record.read (tokens text)
  if rest.isEmpty then .ok value else .error .malformed

end RecordReader

end RemoteTail.Json

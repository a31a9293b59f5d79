import RemoteTail.Error
import RemoteTail.Text.Blank

/-!
# Request headers

Header names are tokens and compare without regard to case; values are texts
without controls.  A list of pairs becomes a map from lowercase names to
values, in which the last pair of a name counts.
-/

namespace RemoteTail

/-- Request headers by lowercase name. -/
abbrev Headers := TextMap

namespace Header

/-- Whether a character may stand in a header name. -/
def isTokenChar (c : Char) : Bool :=
  ('a' ≤ c && c ≤ 'z') || ('A' ≤ c && c ≤ 'Z') || ('0' ≤ c && c ≤ '9') ||
    "!#$%&'*+-.^_\x60|~".toList.contains c

/-- The greatest length of a header name. -/
def maxNameLength : Nat :=
  65535

/-- Whether a text is a header name. -/
def isName (name : String) : Bool :=
  let chars := name.toList
  !chars.isEmpty && chars.length ≤ maxNameLength && chars.all isTokenChar

/-- Whether a character may stand in a header value: none of the controls but the tab. -/
def isValueChar (c : Char) : Bool :=
  c = '\t' || (0x20 ≤ c.toNat && c.toNat ≠ 0x7F)

/-- Whether a text is a header value. -/
def isValue (value : String) : Bool :=
  value.toList.all isValueChar

/-- The name and the value of a header that is given as a pair of texts.  White space around
either does not count.  A bad name is reported as it was given, a bad value by its name. -/
def ofPair (pair : String × String) : Except Error (String × String) :=
  let name := Blank.trim pair.1
  let value := Blank.trim pair.2
  if !isName name then .error (.invalidHeader pair.1)
  else if !isValue value then .error (.invalidHeader (name.map Char.toLower))
  else .ok (name.map Char.toLower, value)

/-- A pair set in the headers collected so far. -/
def add (headers : Headers) (pair : String × String) : Except Error Headers :=
  (ofPair pair).map fun (name, value) => headers.insert name value

/-- The headers given by a list of pairs. -/
def ofPairs (pairs : List (String × String)) : Except Error Headers :=
  pairs.foldlM add ∅

/-- A text that should give a header as `NAME: VALUE` and does not. -/
structure NotAHeader where
  /-- The text. -/
  given : String
deriving DecidableEq, Repr

/-- The wording of the refusal. -/
def NotAHeader.message (refusal : NotAHeader) : String :=
  "expected NAME: VALUE, got " ++ Quotation.text refusal.given

/-- The name and the value in a text of the form `NAME: VALUE`, divided at the first colon. -/
def parse (given : String) : Except NotAHeader (String × String) :=
  let chars := given.toList
  let name := Blank.trimChars (chars.takeWhile (· ≠ ':'))
  match chars.dropWhile (· ≠ ':') with
  | [] => .error ⟨given⟩
  | _ :: value =>
    if name.isEmpty then .error ⟨given⟩
    else .ok (String.ofList name, String.ofList (Blank.trimChars value))

end Header

end RemoteTail

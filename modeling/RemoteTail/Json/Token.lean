import RemoteTail.Json.Number
import RemoteTail.Json.Quoted

/-!
# JSON tokens

A text is a sequence of tokens.  Each token that can be spelt wrong carries its
readings, for its value and to be skipped, so that a fault counts only where a
reader comes to it, and counts for that reader only.  The tokens end where
skipping is no longer possible.
-/

namespace RemoteTail.Json

/-- The two kinds of brackets. -/
inductive Shape where
  /-- Square brackets, around a list. -/
  | list
  /-- Curly brackets, around an object. -/
  | object
deriving DecidableEq, Repr

/-- The smallest parts of a JSON text. -/
inductive Token where
  /-- An opening bracket. -/
  | opening (shape : Shape)
  /-- A closing bracket. -/
  | closing (shape : Shape)
  /-- The mark between a key and its value. -/
  | colon
  /-- The mark between elements. -/
  | comma
  /-- One of the words true, false and null, by its first letter. -/
  | word (spelt : Except Fault Unit)
  /-- A number. -/
  | number (value : Except Fault Number) (skipped : Except Fault Unit)
  /-- A string. -/
  | text (value : Except Fault (List Char)) (skipped : Except Fault Unit)
  /-- An octet that begins no token. -/
  | junk

/-- Whether an octet is white space between tokens. -/
def isSpace (octet : UInt8) : Bool :=
  octet = 0x20 || octet = 0x09 || octet = 0x0A || octet = 0x0D

/-- What follows a word, of which `letters` are still to come. -/
def skipWord : (letters : Bytes) → Bytes → Except Fault Bytes
  | [], rest => .ok rest
  | _ :: _, [] => .error .truncated
  | letter :: letters, octet :: rest =>
    if octet = letter then skipWord letters rest else .error .malformed

theorem length_skipWord {letters text rest : Bytes} (h : skipWord letters text = .ok rest) :
    rest.length ≤ text.length := by
  fun_induction skipWord letters text with
  | case1 => cases h; simp
  | case2 => cases h
  | case3 _ _ _ ih => have := ih h; simp only [List.length_cons]; omega
  | case4 => cases h

/-- The letters after the first of a word that begins with the given octet. -/
def wordTail? (octet : UInt8) : Option Bytes :=
  if octet = 0x6E then some (Bytes.ofString "ull")
  else if octet = 0x74 then some (Bytes.ofString "rue")
  else if octet = 0x66 then some (Bytes.ofString "alse")
  else none

/-- The token that is a single octet. -/
def mark? (octet : UInt8) : Option Token :=
  if octet = 0x5B then some (.opening .list)
  else if octet = 0x5D then some (.closing .list)
  else if octet = 0x7B then some (.opening .object)
  else if octet = 0x7D then some (.closing .object)
  else if octet = 0x3A then some .colon
  else if octet = 0x2C then some .comma
  else none

/-- The token that begins with `octet`, and what follows it if it can be skipped. -/
def lexeme (octet : UInt8) (rest : Bytes) : Token × Option Bytes :=
  let spelt := fun (skipped : Except Fault Bytes) => (skipped.map fun _ => (), skipped.toOption)
  match mark? octet, wordTail? octet with
  | some token, _ => (token, some rest)
  | none, some letters =>
    let (verdict, after) := spelt (skipWord letters rest)
    (.word verdict, after)
  | none, none =>
    if octet = Quoted.quote then
      let (verdict, after) := spelt (Quoted.skip rest)
      (.text (Quoted.read rest) verdict, after)
    else if octet = 0x2D || isDigit octet then
      let (verdict, after) := spelt (Number.skip (octet :: rest))
      (.number (Number.read (octet :: rest)) verdict, after)
    else (.junk, none)

theorem length_lexeme_le {octet : UInt8} {rest after : Bytes}
    (h : (lexeme octet rest).2 = some after) : after.length ≤ rest.length := by
  have toOption_eq {taken : Except Fault Bytes} (h : taken.toOption = some after) :
      taken = .ok after := by
    cases taken <;> simp_all [Except.toOption]
  unfold lexeme at h
  split at h
  · cases h; simp
  · exact length_skipWord (toOption_eq h)
  · split at h
    · exact Nat.le_of_lt (Quoted.length_skip (toOption_eq h))
    · split at h
      · have := Number.length_skip (toOption_eq h)
        simp only [List.length_cons] at this
        omega
      · cases h

/-- The tokens of a text. -/
def tokens (text : Bytes) : List Token :=
  match _spaced : text.dropWhile isSpace with
  | [] => []
  | octet :: rest =>
    (lexeme octet rest).1 ::
      match _taken : (lexeme octet rest).2 with
      | none => []
      | some after => tokens after
termination_by text.length
decreasing_by
  have := length_lexeme_le _taken
  have := Number.length_dropWhile_le isSpace text
  rw [_spaced] at this
  simp only [List.length_cons] at this
  omega

end RemoteTail.Json

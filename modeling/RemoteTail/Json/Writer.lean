import RemoteTail.Bytes
import RemoteTail.Text.Decimal

/-!
# JSON texts

Members are written in the given order, in the compact form without white space
and in the indented form each on a line of its own.  A string escapes the
quotation mark, the reverse solidus and the controls below U+0020, and nothing
else.
-/

namespace RemoteTail.Json

/-- The lowercase hexadecimal digit of a value below sixteen. -/
def hexDigit (value : Nat) : Char :=
  if value < 10 then Char.ofNat (0x30 + value) else Char.ofNat (0x57 + value)

/-- A character as it is written inside a string. -/
def escape (c : Char) : List Char :=
  match c with
  | '"' => ['\\', '"']
  | '\\' => ['\\', '\\']
  | '\x08' => ['\\', 'b']
  | '\t' => ['\\', 't']
  | '\n' => ['\\', 'n']
  | '\x0c' => ['\\', 'f']
  | '\r' => ['\\', 'r']
  | c =>
    if c.toNat < 0x20 then
      ['\\', 'u', '0', '0', hexDigit (c.toNat / 16), hexDigit (c.toNat % 16)]
    else [c]

/-- A text as a JSON string. -/
def stringText (text : List Char) : List Char :=
  '"' :: text.flatMap escape ++ ['"']

/-- Members separated by commas. -/
def commaSeparated : List (List Char) → List Char
  | [] => []
  | [item] => item
  | item :: items => item ++ ',' :: commaSeparated items

/-- An object with the given members; each value is already JSON text. -/
def objectText (members : List (String × List Char)) : List Char :=
  let member := fun (entry : String × List Char) => stringText entry.1.toList ++ ':' :: entry.2
  '\x7b' :: commaSeparated (members.map member) ++ ['\x7d']

/-- A line break, and two spaces for each level at which the next line lies. -/
def lineBreak (depth : Nat) : List Char :=
  '\n' :: List.replicate (2 * depth) ' '

/-- A member on a line of its own; its value is already JSON text. -/
def memberLine (depth : Nat) (entry : String × List Char) : List Char :=
  lineBreak depth ++ stringText entry.1.toList ++ ':' :: ' ' :: entry.2

/-- What stands before the bracket that closes an object: its line begins there if the object has
members. -/
def closingBreak (depth : Nat) : List (String × List Char) → List Char
  | [] => []
  | _ :: _ => lineBreak depth

/-- An object in the indented form, with its closing bracket at the given level. -/
def objectLines (depth : Nat) (members : List (String × List Char)) : List Char :=
  '\x7b' :: commaSeparated (members.map (memberLine (depth + 1))) ++ closingBreak depth members ++
    ['\x7d']

/-- An integer as JSON text. -/
def intText : Int → List Char
  | .ofNat value => Decimal.digits value
  | .negSucc value => '-' :: Decimal.digits (value + 1)

end RemoteTail.Json

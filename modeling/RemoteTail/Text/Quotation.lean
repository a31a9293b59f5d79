import RemoteTail.Json.Writer
import RemoteTail.Text.Graphic

/-!
# Quoted texts for messages

A text is shown between quotation marks, so that every character can be told:
the usual short escapes, and a code point in hexadecimal for each character
that is not shown as itself.
-/

namespace RemoteTail.Quotation

/-- The lowercase hexadecimal digits of a number. -/
def hexDigits (value : Nat) : List Char :=
  if value < 16 then [Json.hexDigit value]
  else hexDigits (value / 16) ++ [Json.hexDigit (value % 16)]

/-- A character as it is shown between quotation marks. -/
def escape (c : Char) : List Char :=
  match c with
  | '\x00' => ['\\', '0']
  | '\t' => ['\\', 't']
  | '\n' => ['\\', 'n']
  | '\r' => ['\\', 'r']
  | '"' => ['\\', '"']
  | '\\' => ['\\', '\\']
  | c =>
    if Graphic.isGraphic c then [c]
    else ['\\', 'u', '\x7b'] ++ hexDigits c.toNat ++ ['\x7d']

/-- A text between quotation marks. -/
def text (shown : String) : String :=
  String.ofList ('"' :: shown.toList.flatMap escape ++ ['"'])

end RemoteTail.Quotation

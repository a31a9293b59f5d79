import RemoteTail.Json.Writer

/-!
# Percent-encoding

An octet that may not stand for itself is written as a percent sign and two
hexadecimal digits.  Paths, queries and form parameters differ in the
characters that they keep; characters beyond ASCII are never kept.
-/

namespace RemoteTail.Percent

/-- The uppercase hexadecimal digit of a value below sixteen. -/
def hexDigit (value : Nat) : Char :=
  (Json.hexDigit value).toUpper

/-- The value of a hexadecimal digit of either case. -/
def hexValue? (c : Char) : Option Nat :=
  if '0' ≤ c && c ≤ '9' then some (c.toNat - 0x30)
  else if 'a' ≤ c && c ≤ 'f' then some (c.toNat - 0x57)
  else if 'A' ≤ c && c ≤ 'F' then some (c.toNat - 0x37)
  else none

/-- An octet as a percent sign and two digits. -/
def encodeOctet (octet : UInt8) : List Char :=
  ['%', hexDigit (octet.toNat / 16), hexDigit (octet.toNat % 16)]

/-- Whether a character is printable ASCII other than the space. -/
def isVisible (c : Char) : Bool :=
  0x20 < c.toNat && c.toNat < 0x7F

/-- A character, kept if it may be, and encoded octet by octet otherwise. -/
def encodeChar (keeps : Char → Bool) (c : Char) : List Char :=
  if isVisible c && keeps c then [c] else (String.utf8EncodeChar c).flatMap encodeOctet

/-- A text in which only visible characters that may be kept are kept. -/
def encode (keeps : Char → Bool) (text : List Char) : List Char :=
  text.flatMap (encodeChar keeps)

/-- Whether a fragment keeps a character. -/
def fragmentKeeps (c : Char) : Bool :=
  !("\"<>\x60".toList.contains c)

/-- Whether a path keeps a character. -/
def pathKeeps (c : Char) : Bool :=
  fragmentKeeps c && !("#?\x7b\x7d".toList.contains c)

/-- Whether the name or the password of a user keeps a character. -/
def userKeeps (c : Char) : Bool :=
  pathKeeps c && !("/:;=@[\\]^|".toList.contains c)

/-- Whether a query keeps a character. -/
def queryKeeps (c : Char) : Bool :=
  !("\"#<>'".toList.contains c)

/-- Whether a form parameter keeps a character. -/
def formKeeps (c : Char) : Bool :=
  c.isAlphanum || "*-._".toList.contains c

/-- A form parameter, in which a space is written as a plus sign. -/
def encodeForm (text : List Char) : List Char :=
  text.flatMap fun c => if c = ' ' then ['+'] else encodeChar formKeeps c

/-- Form parameters, joined by ampersands. -/
def formText : List (String × String) → List Char
  | [] => []
  | [(name, value)] => encodeForm name.toList ++ '=' :: encodeForm value.toList
  | (name, value) :: pairs =>
    encodeForm name.toList ++ '=' :: encodeForm value.toList ++ '&' :: formText pairs

/-- The octets of a text in which percent signs followed by two digits stand for octets. -/
def decode : List Char → Bytes
  | '%' :: high :: low :: rest =>
    match hexValue? high, hexValue? low with
    | some high, some low => UInt8.ofNat (high * 16 + low) :: decode rest
    | _, _ => String.utf8EncodeChar '%' ++ decode (high :: low :: rest)
  | c :: rest => String.utf8EncodeChar c ++ decode rest
  | [] => []

end RemoteTail.Percent

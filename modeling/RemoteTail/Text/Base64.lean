import RemoteTail.Bytes

/-!
# Base64 texts

Every three octets are written as four characters of six bits each; a last
group of one or two octets is filled up with equals signs.
-/

namespace RemoteTail.Base64

/-- The character of a value below sixty-four. -/
def symbol (value : Nat) : Char :=
  if value < 26 then Char.ofNat (0x41 + value)
  else if value < 52 then Char.ofNat (0x61 + (value - 26))
  else if value < 62 then Char.ofNat (0x30 + (value - 52))
  else if value = 62 then '+'
  else '/'

/-- The first characters of a group whose octets form a number of twenty-four bits. -/
def symbols (count group : Nat) : List Char :=
  [symbol (group >>> 18), symbol (group >>> 12 % 64), symbol (group >>> 6 % 64),
    symbol (group % 64)].take count

/-- The Base64 text of a string of octets. -/
def encode : Bytes → List Char
  | first :: second :: third :: rest =>
    symbols 4 (first.toNat <<< 16 + second.toNat <<< 8 + third.toNat) ++ encode rest
  | [first, second] => symbols 3 (first.toNat <<< 16 + second.toNat <<< 8) ++ ['=']
  | [first] => symbols 2 (first.toNat <<< 16) ++ ['=', '=']
  | [] => []

end RemoteTail.Base64

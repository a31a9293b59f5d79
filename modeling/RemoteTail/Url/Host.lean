import RemoteTail.Text.Decimal
import RemoteTail.Text.Quotation
import RemoteTail.Text.Utf8
import RemoteTail.Url.Domain
import RemoteTail.Url.Percent

/-!
# Hosts

The host of a URL is an IPv6 address in brackets, an IPv4 address, or a domain
name.  A name whose last label is a number has to be an IPv4 address.
-/

namespace RemoteTail

/-- A host. -/
inductive Host where
  /-- A domain name in ASCII. -/
  | name (name : String)
  /-- An address of 32 bits. -/
  | ipv4 (address : Nat)
  /-- An address of eight pieces of 16 bits. -/
  | ipv6 (pieces : List Nat)
deriving DecidableEq, Repr

namespace Host

/-- The number that digits denote in a base of at most sixteen, or `most` if the number is
greater. -/
def numeral? (most base : Nat) (digits : List Char) : Option Nat :=
  digits.foldlM (fun total c => do
    let digit ← Percent.hexValue? c
    if digit < base then some (min most (total * base + digit)) else none) 0

/-- A part of an IPv4 address: hexadecimal after 0x, octal after another leading zero, or else
decimal.  All numbers beyond an address count as the first of them. -/
def ipv4Number? : List Char → Option Nat
  | [] => none
  | '0' :: 'x' :: digits => numeral? (1 <<< 32) 16 digits
  | '0' :: 'X' :: digits => numeral? (1 <<< 32) 16 digits
  | '0' :: digit :: digits => numeral? (1 <<< 32) 8 (digit :: digits)
  | digits => numeral? (1 <<< 32) 10 digits

/-- The parts of a dotted text; a dot at the end does not begin another part. -/
def dottedParts (text : List Char) : List (List Char) :=
  let labels := Separated.parts '.' text
  if labels.length > 1 && labels.getLast? = some [] then labels.dropLast else labels

/-- Whether the last part of a dotted text is a number. -/
def endsInNumber (text : List Char) : Bool :=
  match (dottedParts text).getLast? with
  | none => false
  | some last => (!last.isEmpty && last.all Decimal.isDigit) || (ipv4Number? last).isSome

/-- The address of up to four numbers; the last one fills all places that are left. -/
def ipv4OfNumbers? : (places : Nat) → List Nat → Option Nat
  | _, [] => none
  | places, [last] => if last < 256 ^ places then some last else none
  | 0, _ :: _ :: _ => none
  | places + 1, number :: numbers =>
    if number < 256 then (ipv4OfNumbers? places numbers).map (number * 256 ^ places + ·) else none

/-- The IPv4 address that a dotted text denotes. -/
def ipv4? (text : List Char) : Option Nat := do
  let numbers ← (dottedParts text).mapM ipv4Number?
  if numbers.length ≤ 4 then ipv4OfNumbers? 4 numbers else none

/-- One number of a dotted address inside an IPv6 address: up to 255, without leading zeros. -/
def strictNumber? (digits : List Char) : Option Nat :=
  if digits.length > 1 && digits.head? = some '0' then none
  else Decimal.below? 256 digits

/-- One piece of an IPv6 address: up to four hexadecimal digits. -/
def piece? (digits : List Char) : Option Nat :=
  if digits.isEmpty || 4 < digits.length then none else numeral? (1 <<< 16) 16 digits

/-- The pieces of the last group of an IPv6 address, which may be a dotted address. -/
def lastPieces? (text : List Char) : Option (List Nat) :=
  if text.contains '.' then do
    match ← (Separated.parts '.' text).mapM strictNumber? with
    | [first, second, third, fourth] => some [first * 256 + second, third * 256 + fourth]
    | _ => none
  else (piece? text).map fun piece => [piece]

/-- The pieces of a run of groups; an empty text has none. -/
def pieces? (text : List Char) : Option (List Nat) :=
  if text.isEmpty then some []
  else do
    let groups := Separated.parts ':' text
    let pieces ← groups.dropLast.mapM piece?
    let last ← lastPieces? (groups.getLast?.getD [])
    some (pieces ++ last)

/-- The text before and after the first two colons in a row. -/
def doubleColon? : List Char → Option (List Char × List Char)
  | ':' :: ':' :: rest => some ([], rest)
  | c :: rest => (doubleColon? rest).map fun (before, after) => (c :: before, after)
  | [] => none

/-- The IPv6 address that a text denotes.  Two colons in a row stand for zeros, one at least. -/
def ipv6? (text : List Char) : Option (List Nat) := do
  match doubleColon? text with
  | none =>
    let pieces ← pieces? text
    if pieces.length = 8 then some pieces else none
  | some (before, after) =>
    let leading ← pieces? before
    let trailing ← pieces? after
    let present := leading.length + trailing.length
    if before.contains '.' || 8 ≤ present then none
    else some (leading ++ List.replicate (8 - present) 0 ++ trailing)

/-- The host that a text in front of a port or a path denotes. -/
def parse? (text : List Char) : Option Host :=
  match text with
  | '[' :: rest =>
    if rest.getLast? = some ']' then (ipv6? rest.dropLast).map .ipv6 else none
  | _ => do
    let name ← Domain.ascii? (← Utf8.decode? (Percent.decode text))
    if name.isEmpty then none
    else if endsInNumber name then (ipv4? name).map .ipv4
    else some (.name (String.ofList name))

/-- Whether a character may not stand in a host that is not taken apart. -/
def isReserved (c : Char) : Bool :=
  "\x00\t\n\r #/:<>?@[\\]^|".toList.contains c

/-- Whether a text may be the host of a URL of any scheme; such a host is not taken apart. -/
def isOpaque (text : List Char) : Bool :=
  match text with
  | '[' :: rest => rest.getLast? = some ']' && (ipv6? rest.dropLast).isSome
  | _ => !text.any isReserved

/-! ## Writing -/

/-- Pieces of an IPv6 address between colons. -/
def piecesText (pieces : List Nat) : String :=
  ":".intercalate (pieces.map fun piece => String.ofList (Quotation.hexDigits piece))

/-- Number of zeros at the beginning of a list. -/
def leadingZeros (pieces : List Nat) : Nat :=
  (pieces.takeWhile (· = 0)).length

/-- The beginning and the length of the longest run of zeros, the first of several. -/
def longestZeros : List Nat → Nat × Nat
  | [] => (0, 0)
  | piece :: pieces =>
    let (start, length) := longestZeros pieces
    let here := leadingZeros (piece :: pieces)
    if length ≤ here then (0, here) else (start + 1, length)

/-- An IPv6 address, with two colons for the longest run of two zeros or more. -/
def ipv6Text (pieces : List Nat) : String :=
  let (start, length) := longestZeros pieces
  if length < 2 then piecesText pieces
  else piecesText (pieces.take start) ++ "::" ++ piecesText (pieces.drop (start + length))

/-- The text of a host. -/
def text : Host → String
  | .name domain => domain
  | .ipv4 address =>
    ".".intercalate ([24, 16, 8, 0].map fun shift => Decimal.text (address >>> shift % 256))
  | .ipv6 pieces => "[" ++ ipv6Text pieces ++ "]"

end Host

end RemoteTail

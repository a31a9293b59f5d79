import RemoteTail.Bytes

/-!
# Punycode

A label beyond ASCII is written in ASCII as follows.  Its ASCII characters come
first, and a hyphen after them if there are any.  Then one number is written for
each of the other characters, in the order of their code points: how many steps
lie between the insertion before and this one, if every place of the label is
tried for every code point in turn.  Numbers are written in digits of base 36,
the least significant first; the values at which a number ends depend on a bias
that follows the size of the numbers so far.
-/

namespace RemoteTail.Punycode

/-- The number of digits. -/
def base : Nat := 36

/-- The least and the greatest value at which a number may end. -/
def thresholds : Nat × Nat := (1, 26)

/-- The code point before the first one that is inserted. -/
def firstCode : Nat := 0x80

/-- The bias at the beginning. -/
def firstBias : Nat := 72

/-- Bounds the numbers that are read. -/
def numberBound : Nat := 1 <<< 32

/-- The value below which a digit ends a number, for the digit at a place. -/
def threshold (bias place : Nat) : Nat :=
  max thresholds.1 (min thresholds.2 (base * (place + 1) - bias))

theorem one_le_threshold (bias place : Nat) : 1 ≤ threshold bias place := by
  simp only [threshold, thresholds]
  omega

/-- The bias for numbers of a size. -/
def biasOf (number : Nat) : Nat :=
  if 455 < number then base + biasOf (number / 35) else base * number / (number + 38)
termination_by number

/-- The bias after a number, when a label has `count` characters.  The first number is scaled down
further, since it holds the code point. -/
def adapt (number count : Nat) (isFirst : Bool) : Nat :=
  let scaled := if isFirst then number / 700 else number / 2
  biasOf (scaled + scaled / count)

/-! ## Reading -/

/-- The value of a digit: small letters come before decimal digits. -/
def digitValue? (c : Char) : Option Nat :=
  if 'a' ≤ c && c ≤ 'z' then some (c.toNat - 0x61)
  else if '0' ≤ c && c ≤ '9' then some (c.toNat - 0x30 + 26)
  else none

/-- A label that is being read, between two digits. -/
structure Reading where
  /-- The characters so far. -/
  label : List Char
  /-- The code point that was inserted last. -/
  code : Nat := firstCode
  /-- The place after the last insertion. -/
  start : Nat := 0
  /-- The place that the number read so far leads to, passed places included. -/
  reached : Nat := 0
  /-- The bias of the number. -/
  bias : Nat := firstBias
  /-- The place of the next digit in its number. -/
  place : Nat := 0
  /-- What the next digit counts. -/
  weight : Nat := 1

namespace Reading

/-- The label after the last digit of a number: a character has been inserted. -/
def insert? (reading : Reading) : Option Reading := do
  let count := reading.label.length + 1
  let code := reading.code + reading.reached / count
  let place := reading.reached % count
  if code.isValidChar then
    some
      { label := reading.label.insertIdx place (Char.ofNat code)
        code
        start := place + 1
        reached := place + 1
        bias := adapt (reading.reached - reading.start) count (reading.start = 0) }
  else none

/-- The label after one more digit. -/
def digit? (reading : Reading) (c : Char) : Option Reading := do
  let value ← digitValue? c
  let reached := reading.reached + value * reading.weight
  let bound := threshold reading.bias reading.place
  let weight := reading.weight * (base - bound)
  if numberBound ≤ reached then none
  else if value < bound then insert? { reading with reached }
  else if numberBound ≤ weight then none
  else some { reading with reached, weight, place := reading.place + 1 }

end Reading

/-- The part of a text before its last hyphen, and the part after it.  A hyphen in front of all
does not divide. -/
def divide (text : List Char) : List Char × List Char :=
  let reversed := text.reverse
  match reversed.dropWhile (· ≠ '-') with
  | _ :: before@(_ :: _) => (before.reverse, (reversed.takeWhile (· ≠ '-')).reverse)
  | _ => ([], text)

/-- The label that an ASCII text stands for. -/
def decode? (text : List Char) : Option (List Char) := do
  let (kept, digits) := divide text
  let reading ← digits.foldlM Reading.digit? { label := kept }
  if reading.place = 0 then some reading.label else none

/-! ## Writing -/

/-- The digit of a value below 36. -/
def digit (value : Nat) : Char :=
  Char.ofNat (if value < 26 then 0x61 + value else 0x30 + (value - 26))

/-- The digits of a number from a place on. -/
def digits (bias place number : Nat) : List Char :=
  let bound := threshold bias place
  if number < bound then [digit number]
  else
    digit (bound + (number - bound) % (base - bound)) ::
      digits bias (place + 1) ((number - bound) / (base - bound))
termination_by number
decreasing_by
  have := one_le_threshold bias place
  exact Nat.lt_of_le_of_lt (Nat.div_le_self _ _) (by omega)

/-- A label that is being written, between two characters that are looked at. -/
structure Writing where
  /-- The digits so far, the last one first. -/
  written : List Char := []
  /-- The steps since the last insertion. -/
  steps : Nat := 0
  /-- The bias of the next number. -/
  bias : Nat := firstBias
  /-- Number of characters that are in their places. -/
  count : Nat
  /-- Whether no number has been written. -/
  isFirst : Bool := true

namespace Writing

/-- Tries a code point at the place of a character of the label. -/
def look (code : Nat) (writing : Writing) (c : Char) : Writing :=
  if c.toNat < code then { writing with steps := writing.steps + 1 }
  else if c.toNat = code then
    { written := (digits writing.bias 0 writing.steps).reverse ++ writing.written
      steps := 0
      bias := adapt writing.steps (writing.count + 1) writing.isFirst
      count := writing.count + 1
      isFirst := false }
  else writing

/-- Writes all occurrences of the given code points, which come in increasing order, in a label.
`next` is the first code point that has not been tried. -/
def insertAll (label : List Char) : (next : Nat) → List Nat → Writing → Writing
  | _, [], writing => writing
  | next, code :: codes, writing =>
    let reached := { writing with steps := writing.steps + (code - next) * (writing.count + 1) }
    let passed := label.foldl (look code) reached
    insertAll label (code + 1) codes { passed with steps := passed.steps + 1 }

end Writing

/-- The ASCII text that stands for a label. -/
def encode (label : List Char) : List Char :=
  let kept := label.filter (·.toNat < firstCode)
  let codes := ((label.map Char.toNat).filter (firstCode ≤ ·)).mergeSort.eraseReps
  let writing := Writing.insertAll label firstCode codes { count := kept.length }
  kept ++ (if kept.isEmpty then [] else ['-']) ++ writing.written.reverse

end RemoteTail.Punycode

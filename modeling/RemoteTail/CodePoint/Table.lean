import RemoteTail.Text.Separated

/-!
# Tables of characters

A property of characters is a table of runs, each of them code points in a row
that share a value.  A table is written as a text of words `FIRST-LAST=VALUE`,
or `FIRST=VALUE` for a run of one, with code points as uppercase hexadecimal
numerals and in increasing order.
-/

namespace RemoteTail

/-- Code points in a row that share a value. -/
structure CodeRun (α : Type) where
  /-- The first code point. -/
  first : Nat
  /-- The last code point. -/
  last : Nat
  /-- What they share. -/
  value : α

/-- Runs by increasing code point, none of which meet. -/
abbrev CodeTable (α : Type) :=
  Array (CodeRun α)

namespace CodeTable

variable {α : Type}

/-- The run of a code point among those from `low` on and before `high`. -/
def search (table : CodeTable α) (code low high : Nat) : Option (CodeRun α) :=
  if low < high then
    let middle := (low + high) / 2
    match table[middle]? with
    | none => none
    | some run =>
      if code < run.first then search table code low middle
      else if run.last < code then search table code (middle + 1) high
      else some run
  else none
termination_by high - low

/-- The run of a character. -/
def run? (table : CodeTable α) (c : Char) : Option (CodeRun α) :=
  table.search c.toNat 0 table.size

/-- The value of a character. -/
def get? (table : CodeTable α) (c : Char) : Option α :=
  (table.run? c).map CodeRun.value

/-- Whether a table has a run of a character. -/
def holds (table : CodeTable α) (c : Char) : Bool :=
  (table.run? c).isSome

/-- The code point that an uppercase hexadecimal numeral denotes. -/
def codePoint (numeral : List Char) : Nat :=
  numeral.foldl
    (fun total digit => total * 16 + (digit.toNat - if digit ≤ '9' then 0x30 else 0x37)) 0

/-- The words of a text, kept apart by spaces and line breaks. -/
def words (text : String) : List (List Char) :=
  (Separated.parts ' ' (text.toList.map fun c => if c = '\n' then ' ' else c)).filter (· ≠ [])

/-- The run that a word gives; `read` reads its value. -/
def readRun (read : List Char → α) (word : List Char) : CodeRun α :=
  let bounds := word.takeWhile (· ≠ '=')
  let first := codePoint (bounds.takeWhile (· ≠ '-'))
  { first
    last := match bounds.dropWhile (· ≠ '-') with
      | [] => first
      | _ :: last => codePoint last
    value := read ((word.dropWhile (· ≠ '=')).drop 1) }

/-- The table that a text writes; `read` reads the value of a run. -/
def ofText (read : List Char → α) (text : String) : CodeTable α :=
  ((words text).map (readRun read)).toArray

end CodeTable

/-- A set of characters. -/
abbrev CodeSet :=
  CodeTable Unit

/-- The set that a text writes as runs without values. -/
def CodeSet.ofText (text : String) : CodeSet :=
  CodeTable.ofText (fun _ => ()) text

/-- What single characters are spelt as; a run gives one spelling for each of its code points. -/
abbrev Spellings :=
  CodeTable (Array (List Char))

namespace Spellings

/-- The characters of a spelling, which are written as numerals between full stops. -/
def readSpelling (text : List Char) : List Char :=
  if text.isEmpty then []
  else (Separated.parts '.' text).map fun numeral => Char.ofNat (CodeTable.codePoint numeral)

/-- The run that a word gives: its first code point, and the spellings from there on between
commas.  No spelling is given where nothing stands between commas. -/
def readRun (word : List Char) : CodeRun (Array (List Char)) :=
  let run := CodeTable.readRun (fun text => (Separated.parts ',' text).map readSpelling) word
  { first := run.first
    last := run.first + run.value.length - 1
    value := run.value.toArray }

/-- The spellings that a text writes. -/
def ofText (text : String) : Spellings :=
  ((CodeTable.words text).map readRun).toArray

/-- The spelling of a character. -/
def spelling? (spellings : Spellings) (c : Char) : Option (List Char) := do
  let run ← spellings.run? c
  let spelling ← run.value[c.toNat - run.first]?
  if spelling.isEmpty then none else some spelling

/-- All characters that have a spelling, each with its spelling. -/
def entries (spellings : Spellings) : List (Char × List Char) :=
  (Array.toList spellings).flatMap fun run =>
    (run.value.toList.zipIdx.filter fun entry => !entry.1.isEmpty).map fun entry =>
      (Char.ofNat (run.first + entry.2), entry.1)

end Spellings

end RemoteTail

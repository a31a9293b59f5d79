import RemoteTail.CodePoint.Combining
import RemoteTail.CodePoint.Decomposition
import Std.Data.HashMap

/-!
# Composed texts

Texts that differ only in whether a letter and its marks are one character are
equivalent.  Of each class of equivalent texts one is composed: all characters
are decomposed, the marks of each letter are put in order, and then a letter
takes in every mark with which it forms a character.
-/

namespace RemoteTail.Composition

/-! ## Syllables of Hangul -/

/-- The first leading consonant. -/
def leadBase : Nat := 0x1100

/-- The first vowel. -/
def vowelBase : Nat := 0x1161

/-- The code point before the first trailing consonant. -/
def trailBase : Nat := 0x11A7

/-- The first syllable. -/
def syllableBase : Nat := 0xAC00

/-- Number of leading consonants. -/
def leadCount : Nat := 19

/-- Number of vowels. -/
def vowelCount : Nat := 21

/-- Number of trailing consonants, none at all included. -/
def trailCount : Nat := 28

/-- The letters of a syllable. -/
def letters? (c : Char) : Option (List Char) :=
  let place := c.toNat - syllableBase
  if c.toNat < syllableBase || leadCount * vowelCount * trailCount ≤ place then none
  else
    let lead := Char.ofNat (leadBase + place / (vowelCount * trailCount))
    let vowel := Char.ofNat (vowelBase + place / trailCount % vowelCount)
    let trail := place % trailCount
    some <| if trail = 0 then [lead, vowel] else [lead, vowel, Char.ofNat (trailBase + trail)]

/-- The place of a character among so many characters from a base on. -/
def placeFrom? (base count : Nat) (c : Char) : Option Nat :=
  if base ≤ c.toNat && c.toNat < base + count then some (c.toNat - base) else none

/-- The syllable that letters form. -/
def syllable? : List Char → Option Char
  | lead :: vowel :: rest => do
    let lead ← placeFrom? leadBase leadCount lead
    let vowel ← placeFrom? vowelBase vowelCount vowel
    let syllable := syllableBase + (lead * vowelCount + vowel) * trailCount
    match rest with
    | [] => some (Char.ofNat syllable)
    | [trail] => do
      let trail ← placeFrom? (trailBase + 1) (trailCount - 1) trail
      some (Char.ofNat (syllable + trail + 1))
    | _ => none
  | _ => none

/-! ## Single characters -/

/-- The full decomposition of a character. -/
def decomposition (c : Char) : List Char :=
  if c.toNat < 0x80 then [c]
  else
    (letters? c <|> Decomposition.composed.spelling? c <|> Decomposition.replaced.spelling? c).getD
      [c]

/-- A character is hashed by its code point. -/
instance hashableChar : Hashable Char where
  hash c := hash c.val

/-- The composed characters by their decompositions. -/
def composites : Std.HashMap (List Char) Char :=
  Decomposition.composed.entries.foldl
    (fun table entry => table.insert entry.2 entry.1) ∅

/-- The composed character with a decomposition. -/
def composite? (decomposed : List Char) : Option Char :=
  syllable? decomposed <|> composites.get? decomposed

/-! ## Texts -/

/-- A decomposed text with the marks of each letter in the order of their classes. -/
def ordered (text : List Char) : List Char :=
  (text.splitBy fun _ next => Combining.classOf next ≠ 0).flatMap fun letterAndMarks =>
    letterAndMarks.mergeSort fun left right => Combining.classOf left ≤ Combining.classOf right

/-- A text that is being composed. -/
structure Progress where
  /-- The characters before the last letter, the last one first. -/
  before : List Char := []
  /-- The decomposition of what the last letter has become. -/
  letter : List Char := []
  /-- The marks that the letter did not take in, the last one first. -/
  marks : List Char := []

namespace Progress

/-- All characters, the last one first. -/
def characters (progress : Progress) : List Char :=
  let letter := match composite? progress.letter with
    | some composite => [composite]
    | none => progress.letter.reverse
  progress.marks ++ letter ++ progress.before

/-- Whether nothing keeps a character from its letter.  A mark does that if its class is not below
that of the character. -/
def isOpen (progress : Progress) (c : Char) : Bool :=
  match progress.marks with
  | [] => true
  | mark :: _ => Combining.classOf mark < Combining.classOf c

/-- Takes the next character of a decomposed text: it joins the letter, stands among its marks, or
is the next letter. -/
def take (progress : Progress) (c : Char) : Progress :=
  let joined := progress.letter ++ [c]
  if progress.isOpen c && (composite? joined).isSome then { progress with letter := joined }
  else if Combining.classOf c ≠ 0 && !progress.letter.isEmpty then
    { progress with marks := c :: progress.marks }
  else { before := progress.characters, letter := [c] }

end Progress

/-- The composed text that is equivalent to a text.  Below U+0300 there are no marks, and every
character is composed. -/
def compose (text : List Char) : List Char :=
  if text.all (·.toNat < 0x300) then text
  else
    ((ordered (text.flatMap decomposition)).foldl Progress.take {}).characters.reverse

end RemoteTail.Composition

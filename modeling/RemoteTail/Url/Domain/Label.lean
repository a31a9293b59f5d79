import RemoteTail.CodePoint.Bidirectional
import RemoteTail.CodePoint.Combining
import RemoteTail.CodePoint.Joining
import RemoteTail.CodePoint.Mark
import RemoteTail.Text.Composition
import RemoteTail.Url.Domain.Mapping
import RemoteTail.Url.Domain.Punycode

/-!
# Labels of domain names

A label is a text without full stops.  In ASCII it may stand for a label beyond
ASCII; such a text begins with `xn--`.  Not every label is valid: it may not
begin with a mark, invisible joiners have to be called for by the letters around
them, and where a name runs both ways each of its labels has to run one way.
-/

namespace RemoteTail.Domain

/-- Whether all characters of a text are ASCII. -/
def isAscii (text : List Char) : Bool :=
  text.all (·.toNat < 0x80)

/-- What a text is looked up by: every character mapped, and all of it composed. -/
def prepare? (text : List Char) : Option (List Char) :=
  (map? text).map Composition.compose

/-- Whether a character is one that preparing leaves alone. -/
def isSettled (c : Char) : Bool :=
  c.toNat < 0x80 || mapChar? c = some [c]

/-! ## Single labels -/

/-- A label of a prepared domain name. -/
structure Label where
  /-- The label as it is written. -/
  written : List Char
  /-- The characters that it stands for. -/
  characters : List Char
deriving DecidableEq, Repr

namespace Label

/-- What labels begin with that stand for others. -/
def mark : List Char :=
  "xn--".toList

/-- The greatest length of what follows the mark. -/
def maxEncoded : Nat :=
  2000

/-- The greatest length of a label beyond ASCII. -/
def maxCharacters : Nat :=
  1000

/-- The label beyond ASCII that a text after the mark stands for.  It has to be prepared. -/
def unpack? (encoded : List Char) : Option (List Char) := do
  if maxEncoded < encoded.length || encoded.getLast?.all (· = '-') || !isAscii encoded then none
  else
    let label ← Punycode.decode? encoded
    if label.all isSettled && Composition.compose label = label then some label else none

/-- The label that is written as a prepared text without full stops. -/
def ofText? (text : List Char) : Option Label :=
  if mark.isPrefixOf text then (unpack? (text.drop mark.length)).map (⟨text, ·⟩)
  else some ⟨text, text⟩

/-- The label in ASCII. -/
def ascii (label : Label) : List Char :=
  if isAscii label.written then label.written else mark ++ Punycode.encode label.characters

/-! ## Valid labels -/

/-- Whether a character is one of ASCII that may not stand in a domain name. -/
def isForbidden (c : Char) : Bool :=
  c.toNat ≤ 0x20 || c.toNat = 0x7F || "%#/:<>?@[\\]^|".toList.contains c

/-- Whether the nearest letter that is not passed over is joined in one of the given ways. -/
def isJoined (ways : List Joining) : List Char → Bool
  | [] => false
  | c :: rest =>
    ways.contains (.ofChar c) || (Joining.ofChar c = .transparent && isJoined ways rest)

/-- Whether an invisible joiner is called for, after characters of which the last one comes first.
After a virama both joiners are; between letters that are joined to each other the one is that
keeps them apart. -/
def allowsJoiner (before : List Char) (joiner : Char) (after : List Char) : Bool :=
  before.head?.any Combining.isVirama ||
    (joiner = '\u200C' && isJoined [.left, .dual] before && isJoined [.right, .dual] after)

/-- Whether all joiners among the following characters are called for. -/
def joinersHold (before : List Char) : List Char → Bool
  | [] => true
  | c :: rest =>
    (if c = '\u200C' || c = '\u200D' then allowsJoiner before c rest else true) &&
      joinersHold (c :: before) rest

/-- Whether a label is valid, whatever stands beside it. -/
def isValid (label : Label) : Bool :=
  !label.characters.any isForbidden &&
    (isAscii label.characters ||
      (label.characters.length ≤ maxCharacters && !label.characters.head?.any Mark.isMark &&
        joinersHold [] label.characters))

/-! ## Labels that run one way -/

/-- Whether a label holds characters that run from right to left. -/
def runsLeftward (label : Label) : Bool :=
  label.characters.any fun c => 0x80 ≤ c.toNat && (BidirectionalClass.ofChar c).runsLeftward

/-- The classes that may stand anywhere in a label after its beginning. -/
def neutralClasses : List BidirectionalClass :=
  [.europeanNumber, .europeanSeparator, .europeanTerminator, .commonSeparator, .mark, .boundary,
    .neutral]

/-- Whether classes are those of a label from left to right: it begins with a letter and ends with
a letter or a number, marks after that left out. -/
def runLeftToRight (classes : List BidirectionalClass) : Bool :=
  classes.head? = some .left &&
    classes.all (fun direction => direction = .left || neutralClasses.contains direction) &&
    (classes.reverse.dropWhile (· = .mark)).head?.any [.left, .europeanNumber].contains

/-- Whether classes are those of a label from right to left: it begins with a letter and ends with
a letter or a number, marks after that left out, and it has one kind of numbers only. -/
def runRightToLeft (classes : List BidirectionalClass) : Bool :=
  classes.head?.any [.right, .arabic].contains &&
    classes.all (fun direction => direction.runsLeftward || neutralClasses.contains direction) &&
    (classes.reverse.dropWhile (· = .mark)).head?.any
      [.right, .arabic, .europeanNumber, .arabicNumber].contains &&
    !(classes.contains .europeanNumber && classes.contains .arabicNumber)

/-- Whether a label may stand in a name that runs both ways. -/
def runsOneWay (label : Label) : Bool :=
  let classes := label.characters.map .ofChar
  classes.isEmpty || runLeftToRight classes || runRightToLeft classes

end Label

end RemoteTail.Domain

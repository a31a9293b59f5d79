import RemoteTail.Proofs.Json.Quoted
import RemoteTail.Json.Token

/-!
# The grammar of JSON

What is JSON text, told without a reader: strings and the texts that they spell
(`Literal`), numbers (`IsNumber`), and values of any depth with white space
between their parts (`IsValue`).

A string may have the form of one without spelling a text (`IsLiteral`): then its
octets are no UTF-8, or an escaped surrogate lacks its other half.
-/

namespace RemoteTail.Json

/-- Octets are white space. -/
def IsSpaces (space : Bytes) : Prop :=
  ∀ octet ∈ space, isSpace octet = true

/-! ## Strings -/

/-- The characters that have an escape of one letter, each after that letter. -/
def shortEscapes : List (UInt8 × Char) :=
  [(0x22, '"'), (0x5C, '\\'), (0x2F, '/'), (0x62, '\x08'), (0x66, '\x0C'), (0x6E, '\n'),
    (0x72, '\r'), (0x74, '\t')]

/-- An octet is the hexadecimal digit of a value, in either case. -/
def SpellsHex (octet : UInt8) (value : Nat) : Prop :=
  (Bytes.ofString "0123456789abcdef")[value]? = some octet ∨
    (Bytes.ofString "0123456789ABCDEF")[value]? = some octet

/-- Four hexadecimal digits spell a code unit of 16 bits. -/
inductive SpellsUnit : Bytes → Nat → Prop where
  /-- The digits, the most significant first. -/
  | digits {a b c d : UInt8} {x y z w : Nat} (first : SpellsHex a x) (second : SpellsHex b y)
      (third : SpellsHex c z) (fourth : SpellsHex d w) :
      SpellsUnit [a, b, c, d] (((x * 16 + y) * 16 + z) * 16 + w)

/-- The ways to spell a character inside a string. -/
inductive SpellsChar : Bytes → Char → Prop where
  /-- By its UTF-8 octets. -/
  | raw {c : Char} (no_quote : c ≠ '"') (no_solidus : c ≠ '\\') (no_control : ¬ c.toNat < 0x20) :
      SpellsChar (String.utf8EncodeChar c) c
  /-- By an escape of one letter. -/
  | short {letter : UInt8} {c : Char} (listed : (letter, c) ∈ shortEscapes) :
      SpellsChar [Quoted.solidus, letter] c
  /-- By its code unit. -/
  | unit {digits : Bytes} {c : Char} (spelt : SpellsUnit digits c.toNat) :
      SpellsChar (Quoted.solidus :: Quoted.unitMark :: digits) c
  /-- By its pair of surrogates. -/
  | pair {leading trailing : Bytes} {c : Char} (high : 0x10000 ≤ c.toNat)
      (leads : SpellsUnit leading (0xD800 + (c.toNat - 0x10000) / 0x400))
      (trails : SpellsUnit trailing (0xDC00 + (c.toNat - 0x10000) % 0x400)) :
      SpellsChar (Quoted.solidus :: Quoted.unitMark ::
        (leading ++ Quoted.solidus :: Quoted.unitMark :: trailing)) c

/-- The octets between the quotation marks of a string spell a text. -/
inductive Literal : Bytes → List Char → Prop where
  /-- The empty string. -/
  | nil : Literal [] []
  /-- A character, and those that follow it. -/
  | cons {spelt rest : Bytes} {c : Char} {text : List Char} (first : SpellsChar spelt c)
      (others : Literal rest text) : Literal (spelt ++ rest) (c :: text)

/-- Octets have the form of the inside of a string, whether or not they spell a text. -/
inductive IsLiteral : Bytes → Prop where
  /-- The empty string. -/
  | nil : IsLiteral []
  /-- An octet that begins no escape. -/
  | plain {octet : UInt8} {rest : Bytes} (plain : Quoted.IsPlain octet) (others : IsLiteral rest) :
      IsLiteral (octet :: rest)
  /-- An escape of one letter. -/
  | short {letter : UInt8} {c : Char} {rest : Bytes} (listed : (letter, c) ∈ shortEscapes)
      (others : IsLiteral rest) : IsLiteral (Quoted.solidus :: letter :: rest)
  /-- An escape by code unit. -/
  | unit {digits rest : Bytes} {value : Nat} (spelt : SpellsUnit digits value)
      (others : IsLiteral rest) :
      IsLiteral (Quoted.solidus :: Quoted.unitMark :: (digits ++ rest))

/-- A string, from its opening to its closing quotation mark. -/
def quoted (literal : Bytes) : Bytes :=
  Quoted.quote :: (literal ++ [Quoted.quote])

/-! ## Numbers -/

/-- Octets are digits, and there is one at least. -/
def IsDigits (digits : Bytes) : Prop :=
  digits ≠ [] ∧ ∀ octet ∈ digits, isDigit octet = true

/-- What may follow the decimal point of a number, and the point itself. -/
inductive IsFraction : Bytes → Prop where
  /-- There is no fraction. -/
  | none : IsFraction []
  /-- A point and digits. -/
  | digits {digits : Bytes} (isDigits : IsDigits digits) : IsFraction (0x2E :: digits)

/-- What may follow the letter of an exponent, and the letter itself. -/
inductive IsExponent : Bytes → Prop where
  /-- There is no exponent. -/
  | none : IsExponent []
  /-- A letter, perhaps a sign, and digits. -/
  | digits {mark : UInt8} {sign digits : Bytes} (isMark : isExponentMark mark = true)
      (isSign : sign ∈ [[], [0x2B], [0x2D]]) (isDigits : IsDigits digits) :
      IsExponent (mark :: (sign ++ digits))

/-- Octets are the digits of a whole number, with no zero in front. -/
def IsNumeral (digits : Bytes) : Prop :=
  IsDigits digits ∧ (digits.head? = some 0x30 → digits = [0x30])

/-- Octets are a number. -/
inductive IsNumber : Bytes → Prop where
  /-- Perhaps a minus sign, a whole number, a fraction and an exponent. -/
  | parts {sign whole fraction exponent : Bytes} (isSign : sign ∈ [[], [0x2D]])
      (isWhole : IsNumeral whole) (isFraction : IsFraction fraction)
      (isExponent : IsExponent exponent) : IsNumber (sign ++ (whole ++ (fraction ++ exponent)))

/-! ## Values -/

/-- Octets are one of the three words. -/
def IsWord (text : Bytes) : Prop :=
  text ∈ [Bytes.ofString "true", Bytes.ofString "false", Bytes.ofString "null"]

/-- The octets of a value, with white space around them. -/
structure Element where
  /-- White space before the value. -/
  before : Bytes
  /-- The value. -/
  text : Bytes
  /-- White space after the value. -/
  after : Bytes
  before_spaces : IsSpaces before
  after_spaces : IsSpaces after

/-- A key and a value, with white space around them. -/
structure Property where
  /-- White space before the key. -/
  before : Bytes
  /-- The key, without its quotation marks. -/
  key : Bytes
  /-- White space between the key and the colon. -/
  after : Bytes
  /-- The value. -/
  value : Element
  before_spaces : IsSpaces before
  after_spaces : IsSpaces after

/-- The octets of an element. -/
def Element.octets (element : Element) : Bytes :=
  element.before ++ (element.text ++ element.after)

/-- The octets of a property. -/
def Property.octets (property : Property) : Bytes :=
  property.before ++ (quoted property.key ++ (property.after ++ 0x3A :: property.value.octets))

/-- Items after the first one, each with a comma in front. -/
def continued (items : List Bytes) : Bytes :=
  items.flatMap (0x2C :: ·)

/-- What stands between brackets: items with commas between them, or white space. -/
def separated (space : Bytes) : List Bytes → Bytes
  | [] => space
  | item :: items => item ++ continued items

/-- The octet of an opening bracket. -/
def openingOctet : Shape → UInt8
  | .list => 0x5B
  | .object => 0x7B

/-- The octet of a closing bracket. -/
def closingOctet : Shape → UInt8
  | .list => 0x5D
  | .object => 0x7D

/-- Items between brackets. -/
def bracketed (shape : Shape) (space : Bytes) (items : List Bytes) : Bytes :=
  openingOctet shape :: (separated space items ++ [closingOctet shape])

/-- The octets of a list. -/
def listOctets (space : Bytes) (elements : List Element) : Bytes :=
  bracketed .list space (elements.map Element.octets)

/-- The octets of an object. -/
def objectOctets (space : Bytes) (properties : List Property) : Bytes :=
  bracketed .object space (properties.map Property.octets)

/-- Octets are a JSON value. -/
inductive IsValue : Bytes → Prop where
  /-- One of the words true, false and null. -/
  | word {text : Bytes} (isWord : IsWord text) : IsValue text
  /-- A number. -/
  | number {text : Bytes} (isNumber : IsNumber text) : IsValue text
  /-- A string. -/
  | text {literal : Bytes} (isLiteral : IsLiteral literal) : IsValue (quoted literal)
  /-- A list. -/
  | list {space : Bytes} {elements : List Element} (spaces : IsSpaces space)
      (values : ∀ element ∈ elements, IsValue element.text) : IsValue (listOctets space elements)
  /-- An object. -/
  | object {space : Bytes} {properties : List Property} (spaces : IsSpaces space)
      (keys : ∀ property ∈ properties, IsLiteral property.key)
      (values : ∀ property ∈ properties, IsValue property.value.text) :
      IsValue (objectOctets space properties)

end RemoteTail.Json

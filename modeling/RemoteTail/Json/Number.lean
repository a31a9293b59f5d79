import RemoteTail.Bytes
import RemoteTail.Json.Fault
import RemoteTail.Number.Rounding

/-!
# JSON numbers

A number is read either for its value or to be skipped.  Read for its value it
is an integer, or some other real number, and it must lie within double
precision; skipped it only has to be spelt right.
-/

namespace RemoteTail.Json

/-- The value of a number, as far as integers are concerned. -/
inductive Number where
  /-- An integer written as one. -/
  | int (value : Int)
  /-- A number with a fraction or an exponent, a negative zero, or an integer beyond 64 bits. -/
  | real
deriving DecidableEq, Repr

/-- Whether an octet is a decimal digit. -/
def isDigit (octet : UInt8) : Bool :=
  0x30 ≤ octet && octet ≤ 0x39

/-- The value of a decimal digit. -/
def digitValue (octet : UInt8) : Nat :=
  octet.toNat - 0x30

/-- Whether an octet begins an exponent. -/
def isExponentMark (octet : UInt8) : Bool :=
  octet = 0x65 || octet = 0x45

/-- An exponent without its sign mark: whether it is negative, and what follows the sign. -/
def exponentSign : Bytes → Bool × Bytes
  | octet :: rest =>
    if octet = 0x2B then (false, rest) else if octet = 0x2D then (true, rest)
    else (false, octet :: rest)
  | [] => (false, [])

namespace Number

/-- Digits collected into a significand as long as it stays below 2^64, and the number of digits
left over. -/
def collect (significand : Nat) : Bytes → Nat × Nat
  | [] => (significand, 0)
  | octet :: digits =>
    let next := significand * 10 + digitValue octet
    if next < 1 <<< 64 then collect next digits else (significand, digits.length + 1)

/-- Whether `significand * 10 ^ exponent`, computed in double precision, is finite. -/
def inRange (significand : Nat) (exponent : Int) : Bool :=
  match exponent with
  | .negSucc _ => true
  | .ofNat power =>
    significand = 0 ||
      (power ≤ 308 && roundDouble significand * roundDouble (Nat.pow 10 power) < doubleBound)

/-- A number other than an integer, provided that it is in range. -/
def realInRange (significand : Nat) (exponent : Int) : Except Fault Number :=
  if inRange significand exponent then .ok .real else .error .malformed

/-- The number whose exponent digits begin after the exponent mark. -/
def withExponent (significand : Nat) (exponent : Int) (marked : Bytes) : Except Fault Number :=
  let (negative, rest) := exponentSign marked
  match rest with
  | [] => .error .truncated
  | octet :: _ =>
    if isDigit octet then
      let shift := (rest.takeWhile isDigit).foldl (fun total d => total * 10 + digitValue d) 0
      realInRange significand (if negative then exponent - shift else exponent + shift)
    else .error .malformed

/-- The number whose fraction digits begin after the decimal point. -/
def withFraction (significand : Nat) (exponent : Int) (pointed : Bytes) : Except Fault Number :=
  let digits := pointed.takeWhile isDigit
  let rest := pointed.dropWhile isDigit
  if digits.isEmpty then .error (if rest.isEmpty then .truncated else .malformed)
  else
    let (significand, left) := collect significand digits
    let exponent := exponent - (digits.length - left : Nat)
    match rest with
    | octet :: rest =>
      if isExponentMark octet then withExponent significand exponent rest
      else realInRange significand exponent
    | [] => realInRange significand exponent

/-- The integer with the given sign and size, if it has 64 bits and is no negative zero. -/
def ofSign (negative : Bool) (size : Nat) : Number :=
  if negative then
    if 0 < size ∧ size ≤ 1 <<< 63 then .int (-size) else .real
  else .int size

/-- The number with the given sign whose digits come first in `unsigned`. -/
def ofDigits (negative : Bool) (unsigned : Bytes) : Except Fault Number :=
  let digits := unsigned.takeWhile isDigit
  let rest := unsigned.dropWhile isDigit
  match digits with
  | [] => .error (if rest.isEmpty then .truncated else .malformed)
  | first :: more =>
    if first = 0x30 && !more.isEmpty then .error .malformed
    else
      let (significand, left) := collect 0 digits
      let finish :=
        if left = 0 then .ok (ofSign negative significand) else realInRange significand left
      match rest with
      | octet :: rest =>
        if octet = 0x2E then withFraction significand left rest
        else if isExponentMark octet then withExponent significand left rest
        else finish
      | [] => finish

/-- The value of the number at the front of a text that begins with a minus sign or a digit. -/
def read : Bytes → Except Fault Number
  | octet :: rest => if octet = 0x2D then ofDigits true rest else ofDigits false (octet :: rest)
  | [] => .error .truncated

/-- What follows a run of at least one digit. -/
def skipDigits : Bytes → Except Fault Bytes
  | octet :: rest => if isDigit octet then .ok (rest.dropWhile isDigit) else .error .malformed
  | [] => .error .malformed

/-- What follows the exponent at the front of a text, if there is one. -/
def skipExponent : Bytes → Except Fault Bytes
  | octet :: rest =>
    if isExponentMark octet then skipDigits (exponentSign rest).2 else .ok (octet :: rest)
  | [] => .ok []

/-- What follows the fraction and the exponent at the front of a text, if there are any. -/
def skipFraction : Bytes → Except Fault Bytes
  | octet :: rest =>
    if octet = 0x2E then skipDigits rest >>= skipExponent else skipExponent (octet :: rest)
  | [] => .ok []

/-- What follows the unsigned number at the front of a text. -/
def skipUnsigned : Bytes → Except Fault Bytes
  | octet :: rest =>
    if octet = 0x30 then
      if rest.head?.any isDigit then .error .malformed else skipFraction rest
    else skipDigits (octet :: rest) >>= skipFraction
  | [] => .error .malformed

/-- What follows the number at the front of a text that begins with a minus sign or a digit. -/
def skip : Bytes → Except Fault Bytes
  | octet :: rest => if octet = 0x2D then skipUnsigned rest else skipUnsigned (octet :: rest)
  | [] => .error .malformed

theorem length_dropWhile_le {α : Type} (p : α → Bool) (items : List α) :
    (items.dropWhile p).length ≤ items.length :=
  (List.dropWhile_sublist p).length_le

theorem length_skipDigits {text rest : Bytes} (h : skipDigits text = .ok rest) :
    rest.length < text.length := by
  unfold skipDigits at h
  split at h
  · next octet text =>
    split at h
    · cases h
      have := length_dropWhile_le isDigit text
      simp only [List.length_cons]
      omega
    · cases h
  · cases h

theorem length_exponentSign_le (text : Bytes) : (exponentSign text).2.length ≤ text.length := by
  unfold exponentSign
  split
  · split
    · simp
    · split <;> simp
  · simp

theorem length_skipExponent {text rest : Bytes} (h : skipExponent text = .ok rest) :
    rest.length ≤ text.length := by
  unfold skipExponent at h
  split at h
  · next octet text =>
    split at h
    · have := length_skipDigits h
      have := length_exponentSign_le text
      simp only [List.length_cons]
      omega
    · cases h
      simp
  · cases h
    simp

theorem length_skipFraction {text rest : Bytes} (h : skipFraction text = .ok rest) :
    rest.length ≤ text.length := by
  unfold skipFraction at h
  split at h
  · next octet text =>
    split at h
    · cases hdigits : skipDigits text with
      | error fault => simp [hdigits, bind, Except.bind] at h
      | ok between =>
        simp only [hdigits, bind, Except.bind] at h
        have := length_skipDigits hdigits
        have := length_skipExponent h
        simp only [List.length_cons]
        omega
    · exact length_skipExponent h
  · cases h
    simp

theorem length_skipUnsigned {text rest : Bytes} (h : skipUnsigned text = .ok rest) :
    rest.length < text.length := by
  unfold skipUnsigned at h
  split at h
  · next octet text =>
    split at h
    · split at h
      · cases h
      · have := length_skipFraction h
        simp only [List.length_cons]
        omega
    · cases hdigits : skipDigits (octet :: text) with
      | error fault => simp [hdigits, bind, Except.bind] at h
      | ok between =>
        simp only [hdigits, bind, Except.bind] at h
        have := length_skipDigits hdigits
        have := length_skipFraction h
        omega
  · cases h

/-- Skipping a number takes at least one octet. -/
theorem length_skip {text rest : Bytes} (h : skip text = .ok rest) :
    rest.length < text.length := by
  unfold skip at h
  split at h
  · next octet text =>
    split at h
    · have := length_skipUnsigned h
      simp only [List.length_cons]
      omega
    · exact length_skipUnsigned h
  · cases h

end Number

end RemoteTail.Json

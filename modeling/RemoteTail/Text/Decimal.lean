/-!
# Decimal numerals

The digits of a number, most significant first, without leading zeros, and the
number that a list of digits denotes.  Where only small numbers are allowed, a
long list of digits is read without computing the number: the total stops
growing at the bound (`below?_eq_filter`).
-/

namespace RemoteTail.Decimal

/-- The digit of a value below ten. -/
def digit (value : Nat) : Char :=
  Char.ofNat (0x30 + value)

/-- The decimal digits of a number. -/
def digits (value : Nat) : List Char :=
  if value < 10 then [digit value] else digits (value / 10) ++ [digit (value % 10)]

/-- The decimal numeral of a number. -/
def text (value : Nat) : String :=
  String.ofList (digits value)

/-- The decimal digits, with `pad` in front up to the given width. -/
def padded (pad : Char) (width value : Nat) : List Char :=
  let shown := digits value
  List.replicate (width - shown.length) pad ++ shown

/-- Whether a character is one of the ten digits. -/
def isDigit (c : Char) : Bool :=
  '0' ≤ c && c ≤ '9'

/-- The number that begins with the digits of `total` and goes on with a digit. -/
def extend (total : Nat) (c : Char) : Nat :=
  total * 10 + (c.toNat - 0x30)

/-- The number that a list of digits denotes; empty lists and other characters denote none. -/
def value? (text : List Char) : Option Nat :=
  if text.isEmpty || !text.all isDigit then none
  else some (text.foldl extend 0)

/-- The number that a list of digits denotes, if it lies below a bound. -/
def below? (bound : Nat) (text : List Char) : Option Nat :=
  if text.isEmpty || !text.all isDigit then none
  else
    let total := text.foldl (fun total c => min bound (extend total c)) 0
    if total < bound then some total else none

theorem min_extend_min (bound total : Nat) (c : Char) :
    min bound (extend (min bound total) c) = min bound (extend total c) := by
  unfold extend
  omega

theorem foldl_min_extend (bound : Nat) (text : List Char) (total : Nat) :
    text.foldl (fun total c => min bound (extend total c)) (min bound total) =
      min bound (text.foldl extend total) := by
  induction text generalizing total with
  | nil => rfl
  | cons c text ih => rw [List.foldl_cons, List.foldl_cons, min_extend_min, ih]

/-- Reading below a bound is reading and comparing with the bound. -/
theorem below?_eq_filter (bound : Nat) (text : List Char) :
    below? bound text = (value? text).filter (· < bound) := by
  have h := foldl_min_extend bound text 0
  rw [Nat.min_zero] at h
  unfold below? value?
  split
  · rfl
  · rw [h]
    by_cases hlt : text.foldl extend 0 < bound
    · simp [Option.filter, hlt, Nat.min_eq_right (Nat.le_of_lt hlt)]
    · simp [Option.filter, hlt, Nat.min_eq_left (Nat.le_of_not_lt hlt)]

end RemoteTail.Decimal

/-!
# Rounding to nearest

Quotients rounded to the nearest whole number, and whole numbers rounded to a
given count of binary digits.  A tie goes to the even neighbour.
-/

namespace RemoteTail

/-- The whole number nearest to `numerator / denominator`; a tie goes to the even one. -/
def roundQuotient (numerator denominator : Nat) : Nat :=
  let quotient := numerator / denominator
  let twice := 2 * (numerator % denominator)
  if twice < denominator then quotient
  else if denominator < twice then quotient + 1
  else quotient + quotient % 2

/-- The number nearest to `value` that has at most `count` binary digits before its trailing
zeros. -/
def roundBits (count value : Nat) : Nat :=
  let scale := 1 <<< (value.log2 + 1 - count)
  roundQuotient value scale * scale

/-- The integer nearest to `value` among the numbers of a double-precision float. -/
def roundDouble (value : Nat) : Nat :=
  roundBits 53 value

/-- The least whole number that is too large for a double-precision float. -/
def doubleBound : Nat :=
  1 <<< 1024 - 1 <<< 970

end RemoteTail

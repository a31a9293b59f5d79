import RemoteTail.Number.Rounding
import RemoteTail.Text.Decimal

/-!
# Human-readable sizes

A count of octets below 1024 is shown as it is; a larger one in the largest of
the units KiB, MiB, GiB and TiB that does not exceed it, with one decimal.  The
count is first rounded to double precision, then its exact quotient to one
decimal; both ties go to even.
-/

namespace RemoteTail.ByteSize

/-- The units above the octet, each 1024 times the one before it. -/
def unitNames : List String :=
  ["KiB", "MiB", "GiB", "TiB"]

/-- The first listed unit in which `value` stays below 1024, or the last one, with its size. -/
def chooseUnit (value size : Nat) : List String → Nat × String
  | [] => (size, "")
  | [name] => (size, name)
  | name :: names =>
    if value < 1024 * size then (size, name) else chooseUnit value (1024 * size) names

/-- The size text of a count of octets. -/
def text (count : Nat) : String :=
  if count < 1024 then Decimal.text count ++ " B"
  else
    let value := roundDouble count
    let (size, name) := chooseUnit value 1024 unitNames
    let tenths := roundQuotient (10 * value) size
    Decimal.text (tenths / 10) ++ "." ++ Decimal.text (tenths % 10) ++ " " ++ name

end RemoteTail.ByteSize

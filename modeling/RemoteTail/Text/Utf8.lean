import RemoteTail.Bytes

/-!
# UTF-8 texts

`units` reads a string of octets as UTF-8.  Each unit is a character, or the
mark of one maximal ill-formed subpart: the octets up to the first that cannot
continue a well-formed sequence.  Strict decoding wants characters only; lossy
decoding shows each mark as U+FFFD.
-/

namespace RemoteTail.Utf8

/-- Whether an octet continues a sequence that an earlier octet began. -/
def isContinuation (octet : UInt8) : Bool :=
  0x80 ≤ octet && octet < 0xC0

/-- What an octet that begins a sequence of several octets fixes. -/
structure Lead where
  /-- The bits that the octet contributes. -/
  bits : Nat
  /-- Least octet that may come second. -/
  low : UInt8
  /-- Greatest octet that may come second. -/
  high : UInt8
  /-- How many octets come after the second. -/
  further : Nat

/-- The well-formed sequences of two, three and four octets, by their first octet.
The bounds on the second octet leave out overlong forms, surrogates and values
above U+10FFFF. -/
def lead? (octet : UInt8) : Option Lead :=
  if octet < 0xC2 then none
  else if octet < 0xE0 then some ⟨octet.toNat - 0xC0, 0x80, 0xBF, 0⟩
  else if octet = 0xE0 then some ⟨0, 0xA0, 0xBF, 1⟩
  else if octet = 0xED then some ⟨0x0D, 0x80, 0x9F, 1⟩
  else if octet < 0xF0 then some ⟨octet.toNat - 0xE0, 0x80, 0xBF, 1⟩
  else if octet = 0xF0 then some ⟨0, 0x90, 0xBF, 2⟩
  else if octet < 0xF4 then some ⟨octet.toNat - 0xF0, 0x80, 0xBF, 2⟩
  else if octet = 0xF4 then some ⟨4, 0x80, 0x8F, 2⟩
  else none

/-- Reads `further` continuation octets onto the bits collected so far. -/
def trail : (further bits : Nat) → Bytes → Option Char × Bytes
  | 0, bits, rest => (some (Char.ofNat bits), rest)
  | _ + 1, _, [] => (none, [])
  | further + 1, bits, octet :: rest =>
    if isContinuation octet then trail further (bits * 64 + (octet.toNat - 0x80)) rest
    else (none, octet :: rest)

/-- The unit that begins with `first`, and what follows it. -/
def unit (first : UInt8) (rest : Bytes) : Option Char × Bytes :=
  if first < 0x80 then (some (Char.ofNat first.toNat), rest)
  else
    match lead? first, rest with
    | some lead, second :: rest =>
      if lead.low ≤ second && second ≤ lead.high then
        trail lead.further (lead.bits * 64 + (second.toNat - 0x80)) rest
      else (none, second :: rest)
    | _, rest => (none, rest)

theorem length_trail_le (further bits : Nat) (rest : Bytes) :
    (trail further bits rest).2.length ≤ rest.length := by
  fun_induction trail further bits rest with
  | case1 bits rest => exact Nat.le_refl _
  | case2 => exact Nat.le_refl _
  | case3 further bits octet rest continues ih => exact Nat.le_succ_of_le ih
  | case4 => exact Nat.le_refl _

theorem length_unit_le (first : UInt8) (rest : Bytes) :
    (unit first rest).2.length ≤ rest.length := by
  unfold unit
  split
  · simp
  · split
    · split
      · have := length_trail_le
        exact Nat.le_succ_of_le (this ..)
      · simp
    · simp

/-- The units of a string of octets; `none` marks a maximal ill-formed subpart. -/
def units : Bytes → List (Option Char)
  | [] => []
  | first :: rest => (unit first rest).1 :: units (unit first rest).2
termination_by bytes => bytes.length
decreasing_by
  have := length_unit_le first rest
  simp only [List.length_cons]
  omega

/-- The text that the octets spell, if they are well-formed UTF-8. -/
def decode? (bytes : Bytes) : Option (List Char) :=
  (units bytes).mapM id

/-- The character that stands for an ill-formed subpart. -/
def replacement : Char :=
  '\uFFFD'

/-- The text that the octets spell, with a replacement for each maximal ill-formed subpart. -/
def lossy (bytes : Bytes) : List Char :=
  (units bytes).map (·.getD replacement)

end RemoteTail.Utf8

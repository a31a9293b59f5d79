import RemoteTail.Json.Fault
import RemoteTail.Text.Utf8

/-!
# JSON strings

A string is read for its text or to be skipped.  Read for its text it has to
spell well-formed UTF-8, and escaped surrogates have to come in pairs; skipped
it only needs well-formed escapes and its closing quotation mark.
-/

namespace RemoteTail.Json.Quoted

/-- The quotation mark. -/
def quote : UInt8 := 0x22

/-- The reverse solidus, which begins an escape. -/
def solidus : UInt8 := 0x5C

/-- The letter of an escape by code unit. -/
def unitMark : UInt8 := 0x75

/-- The value of a hexadecimal digit. -/
def hexValue? (octet : UInt8) : Option Nat :=
  if 0x30 ≤ octet && octet ≤ 0x39 then some (octet.toNat - 0x30)
  else if 0x41 ≤ octet && octet ≤ 0x46 then some (octet.toNat - 0x37)
  else if 0x61 ≤ octet && octet ≤ 0x66 then some (octet.toNat - 0x57)
  else none

/-- The code unit spelt by four hexadecimal digits, and what follows them. -/
def codeUnit : Bytes → Except Fault (Nat × Bytes)
  | a :: b :: c :: d :: rest =>
    match hexValue? a, hexValue? b, hexValue? c, hexValue? d with
    | some a, some b, some c, some d => .ok (((a * 16 + b) * 16 + c) * 16 + d, rest)
    | _, _, _, _ => .error .malformed
  | _ => .error .truncated

/-- The octet meant by a one-letter escape. -/
def shortEscape? (letter : UInt8) : Option UInt8 :=
  if letter = 0x22 || letter = 0x5C || letter = 0x2F then some letter
  else if letter = 0x62 then some 0x08
  else if letter = 0x66 then some 0x0C
  else if letter = 0x6E then some 0x0A
  else if letter = 0x72 then some 0x0D
  else if letter = 0x74 then some 0x09
  else none

/-- The trailing half of a pair of surrogates whose leading half is `leading`. -/
def pairWith (leading : Nat) : Bytes → Except Fault (Char × Bytes)
  | [] => .error .truncated
  | first :: rest =>
    if first = solidus then
      match rest with
      | [] => .error .truncated
      | second :: rest =>
        if second = unitMark then
          match codeUnit rest with
          | .error fault => .error fault
          | .ok (trailing, rest) =>
            if 0xDC00 ≤ trailing && trailing ≤ 0xDFFF then
              .ok (Char.ofNat (0x10000 + (leading - 0xD800) * 0x400 + (trailing - 0xDC00)), rest)
            else .error .malformed
        else .error .malformed
    else .error .malformed

/-- The character that an escape means, and what follows it.  The text begins after the reverse
solidus. -/
def escape : Bytes → Except Fault (Bytes × Bytes)
  | [] => .error .truncated
  | letter :: rest =>
    if letter = unitMark then
      match codeUnit rest with
      | .error fault => .error fault
      | .ok (unit, rest) =>
        if 0xDC00 ≤ unit && unit ≤ 0xDFFF then .error .malformed
        else if 0xD800 ≤ unit && unit ≤ 0xDBFF then
          match pairWith unit rest with
          | .error fault => .error fault
          | .ok (c, rest) => .ok (String.utf8EncodeChar c, rest)
        else .ok (String.utf8EncodeChar (Char.ofNat unit), rest)
    else
      match shortEscape? letter with
      | none => .error .malformed
      | some octet => .ok ([octet], rest)

theorem length_codeUnit {text rest : Bytes} {unit : Nat} (h : codeUnit text = .ok (unit, rest)) :
    rest.length < text.length := by
  unfold codeUnit at h
  split at h
  · split at h <;> cases h
    simp only [List.length_cons]
    omega
  · cases h

theorem length_pairWith {leading : Nat} {text rest : Bytes} {c : Char}
    (h : pairWith leading text = .ok (c, rest)) : rest.length < text.length := by
  unfold pairWith at h
  split at h
  · cases h
  · split at h
    · split at h
      · cases h
      · split at h
        · split at h
          · cases h
          · next hunit =>
            split at h
            · simp only [Except.ok.injEq, Prod.mk.injEq] at h
              have := length_codeUnit hunit
              rw [← h.2]
              simp only [List.length_cons]
              omega
            · cases h
        · cases h
    · cases h

theorem length_escape {text meant rest : Bytes} (h : escape text = .ok (meant, rest)) :
    rest.length < text.length := by
  unfold escape at h
  split at h
  · cases h
  · split at h
    · split at h
      · cases h
      · next hunit =>
        have := length_codeUnit hunit
        split at h
        · cases h
        · split at h
          · split at h
            · cases h
            · next hpair =>
              cases h
              have := length_pairWith hpair
              simp only [List.length_cons]
              omega
          · cases h
            simp only [List.length_cons]
            omega
    · split at h <;> cases h
      simp

/-- The octets that a string stands for.  The text begins after the opening quotation mark. -/
def octets (text : Bytes) : Except Fault Bytes :=
  match text with
  | [] => .error .truncated
  | octet :: rest =>
    if octet = quote then .ok []
    else if octet = solidus then
      match _taken : escape rest with
      | .error fault => .error fault
      | .ok (meant, rest) => (octets rest).map (meant ++ ·)
    else if octet < 0x20 then .error .malformed
    else (octets rest).map (octet :: ·)
termination_by text.length
decreasing_by
  · have := length_escape _taken
    simp only [List.length_cons]
    omega
  · simp

/-- The text that a string stands for. -/
def read (text : Bytes) : Except Fault (List Char) :=
  match octets text with
  | .error fault => .error fault
  | .ok spelt =>
    match Utf8.decode? spelt with
    | none => .error .malformed
    | some chars => .ok chars

/-- What follows a well-formed escape, whatever it means. -/
def skipEscape : Bytes → Except Fault Bytes
  | [] => .error .truncated
  | letter :: rest =>
    if letter = unitMark then (codeUnit rest).map (·.2)
    else if (shortEscape? letter).isSome then .ok rest
    else .error .malformed

theorem length_skipEscape {text rest : Bytes} (h : skipEscape text = .ok rest) :
    rest.length < text.length := by
  unfold skipEscape at h
  split at h
  · cases h
  · next letter text =>
    split at h
    · cases hunit : codeUnit text with
      | error fault => simp [hunit, Except.map] at h
      | ok found =>
        simp only [hunit, Except.map, Except.ok.injEq] at h
        have := length_codeUnit hunit
        subst h
        simp only [List.length_cons]
        omega
    · split at h <;> cases h
      simp

/-- What follows the closing quotation mark.  The text begins after the opening one. -/
def skip (text : Bytes) : Except Fault Bytes :=
  match text with
  | [] => .error .truncated
  | octet :: rest =>
    if octet = quote then .ok rest
    else if octet = solidus then
      match _taken : skipEscape rest with
      | .error fault => .error fault
      | .ok rest => skip rest
    else if octet < 0x20 then .error .malformed
    else skip rest
termination_by text.length
decreasing_by
  · have := length_skipEscape _taken
    simp only [List.length_cons]
    omega
  · simp

/-- Skipping a string takes at least its closing quotation mark. -/
theorem length_skip {text rest : Bytes} (h : skip text = .ok rest) :
    rest.length < text.length := by
  fun_induction skip text with
  | case1 => cases h
  | case2 => cases h; simp
  | case3 => cases h
  | case4 _ _ taken _ ih =>
    have := length_skipEscape taken
    have := ih h
    simp only [List.length_cons]
    omega
  | case5 => cases h
  | case6 =>
    rename_i ih
    have := ih h
    simp only [List.length_cons]
    omega

end RemoteTail.Json.Quoted

/-!
# Octet strings

Files, line messages and wire texts are plain lists of octets.  Text enters as
UTF-8, one character at a time.
-/

namespace RemoteTail

/-- A finite string of octets. -/
abbrev Bytes := List UInt8

/-- The octet that ends a line. -/
def newline : UInt8 := 0x0A

namespace Bytes

/-- The UTF-8 octets of a list of characters. -/
def ofChars (text : List Char) : Bytes :=
  text.flatMap String.utf8EncodeChar

/-- The UTF-8 octets of a text. -/
def ofString (text : String) : Bytes :=
  ofChars text.toList

@[simp]
theorem ofChars_nil : ofChars [] = [] :=
  rfl

@[simp]
theorem ofChars_cons (c : Char) (text : List Char) :
    ofChars (c :: text) = String.utf8EncodeChar c ++ ofChars text :=
  rfl

@[simp]
theorem ofChars_append (left right : List Char) :
    ofChars (left ++ right) = ofChars left ++ ofChars right := by
  simp [ofChars]

/-- The octets at positions `start` up to, not including, `stop`. -/
def slice (start stop : Nat) (bytes : Bytes) : Bytes :=
  (bytes.drop start).take (stop - start)

@[simp]
theorem length_slice (start stop : Nat) (bytes : Bytes) :
    (slice start stop bytes).length = min (stop - start) (bytes.length - start) := by
  simp [slice]

theorem getElem?_slice {start stop index : Nat} (bytes : Bytes) (inside : start + index < stop) :
    (slice start stop bytes)[index]? = bytes[start + index]? := by
  rw [slice, List.getElem?_take_of_lt (by omega), List.getElem?_drop]

@[simp]
theorem slice_self (position : Nat) (bytes : Bytes) : slice position position bytes = [] := by
  simp [slice]

/-- A slice that would stop before its start is empty. -/
theorem slice_max (start stop : Nat) (bytes : Bytes) :
    slice start (max start stop) bytes = slice start stop bytes := by
  rw [slice, slice]
  congr 1
  omega

theorem slice_zero (stop : Nat) (bytes : Bytes) : slice 0 stop bytes = bytes.take stop := by
  simp [slice]

/-- A slice that reaches the end is everything from its start on. -/
theorem slice_eq_drop {stop : Nat} (start : Nat) {bytes : Bytes} (reaches : bytes.length ≤ stop) :
    slice start stop bytes = bytes.drop start := by
  apply List.take_of_length_le
  rw [List.length_drop]
  omega

/-- Slices that meet are one slice. -/
theorem slice_append_slice {start middle stop : Nat} (bytes : Bytes) (before : start ≤ middle)
    (after : middle ≤ stop) :
    slice start middle bytes ++ slice middle stop bytes = slice start stop bytes := by
  obtain ⟨first, rfl⟩ := Nat.exists_eq_add_of_le before
  obtain ⟨second, rfl⟩ := Nat.exists_eq_add_of_le after
  have total : start + first + second - start = first + second := by omega
  simp only [slice, Nat.add_sub_cancel_left, total]
  rw [List.take_add, List.drop_drop]

/-- The octets of a slice determine where it stops. -/
theorem slice_add_length (start stop : Nat) (bytes : Bytes) :
    slice start (start + (slice start stop bytes).length) bytes = slice start stop bytes := by
  simp only [slice, Nat.add_sub_cancel_left]
  rw [List.length_take, ← List.take_take, List.take_length]

/-- A string that grows at its end keeps every full slice. -/
theorem slice_of_prefix {start stop : Nat} {bytes grown : Bytes} (grows : bytes <+: grown)
    (full : (slice start stop bytes).length = stop - start) :
    slice start stop grown = slice start stop bytes := by
  obtain ⟨more, rfl⟩ := grows
  rw [length_slice] at full
  by_cases empty : stop ≤ start
  · simp [slice, Nat.sub_eq_zero_of_le empty]
  · have inside : start ≤ bytes.length := by omega
    have room : stop - start ≤ (bytes.drop start).length := by
      rw [List.length_drop]
      omega
    rw [slice, slice, List.drop_append_of_le_length inside, List.take_append_of_le_length room]

end Bytes

end RemoteTail

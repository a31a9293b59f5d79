/-!
# Texts of separated parts

A separator divides a text into parts, always one more than it occurs.
-/

namespace RemoteTail.Separated

/-- The parts of a text between the occurrences of a separator. -/
def parts (separator : Char) : List Char → List (List Char)
  | [] => [[]]
  | c :: rest =>
    if c = separator then [] :: parts separator rest
    else
      match parts separator rest with
      | [] => [[c]]
      | part :: more => (c :: part) :: more

/-- The text that has the given parts. -/
def join (separator : Char) : List (List Char) → List Char
  | [] => []
  | [part] => part
  | part :: more => part ++ separator :: join separator more

theorem parts_ne_nil (separator : Char) (text : List Char) : parts separator text ≠ [] := by
  cases text with
  | nil => simp [parts]
  | cons c rest =>
    unfold parts
    split
    · simp
    · split <;> simp

/-- Joining the parts of a text gives the text back. -/
@[simp]
theorem join_parts (separator : Char) (text : List Char) :
    join separator (parts separator text) = text := by
  induction text with
  | nil => rfl
  | cons c rest ih =>
    unfold parts
    have hparts := parts_ne_nil separator rest
    rcases hrest : parts separator rest with _ | ⟨part, more⟩
    · exact absurd hrest hparts
    · rw [hrest] at ih
      split
      · next heq => simp [join, heq, ih]
      · cases more <;> simp_all [join]

end RemoteTail.Separated

import Mathlib.Data.List.DropRight
import RemoteTail.Text.Blank

/-!
# Trimming

What has been trimmed has no white space at either end, so that trimming it again
changes nothing.
-/

namespace RemoteTail.Blank

theorem trimChars_eq (text : List Char) :
    trimChars text = (text.dropWhile isBlank).rdropWhile isBlank :=
  rfl

theorem mem_of_mem_trimChars {c : Char} {text : List Char} (member : c ∈ trimChars text) :
    c ∈ text := by
  rw [trimChars_eq] at member
  have kept := (List.rdropWhile_prefix isBlank (text.dropWhile isBlank)).subset member
  exact (List.dropWhile_suffix isBlank).subset kept

@[simp]
theorem trimChars_trimChars (text : List Char) : trimChars (trimChars text) = trimChars text := by
  rw [trimChars_eq text]
  generalize started : text.dropWhile isBlank = kept
  have ended : (kept.rdropWhile isBlank).dropWhile isBlank = kept.rdropWhile isBlank := by
    cases shown : kept.rdropWhile isBlank with
    | nil => rfl
    | cons c rest =>
        obtain ⟨dropped, kept_eq⟩ := List.rdropWhile_prefix isBlank kept
        rw [shown, List.cons_append] at kept_eq
        have no_blank := List.head?_dropWhile_not isBlank text
        rw [started, ← kept_eq] at no_blank
        exact List.dropWhile_cons_of_neg (ne_true_of_eq_false no_blank)
  rw [trimChars_eq, ended, List.rdropWhile_idempotent]

@[simp]
theorem trim_ofList_trimChars (text : List Char) :
    trim (String.ofList (trimChars text)) = String.ofList (trimChars text) := by
  rw [trim, String.toList_ofList, trimChars_trimChars]

end RemoteTail.Blank

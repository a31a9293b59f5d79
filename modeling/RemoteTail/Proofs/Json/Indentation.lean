import RemoteTail.Proofs.Json.Grammar
import RemoteTail.Proofs.Json.Tokens

/-!
# Objects in the indented form

The indented form of an object has white space where the compact form has none:
before its members, after their colons and before the closing bracket.  White
space makes no tokens, so an object spells the same tokens in both forms
(`spellsTokens_objectLines`).
-/

namespace RemoteTail.Json

theorem isSpaces_lineBreak (depth : Nat) : IsSpaces (Bytes.ofChars (lineBreak depth)) := by
  have blanks : ∀ count, IsSpaces (Bytes.ofChars (List.replicate count ' ')) := by
    intro count
    induction count with
    | zero => exact List.forall_mem_nil _
    | succ count ih => exact List.forall_mem_cons.mpr ⟨rfl, ih⟩
  exact List.forall_mem_cons.mpr ⟨rfl, blanks _⟩

theorem writesMembers_memberLine (depth : Nat) :
    WritesMembers fun member => memberLine depth member.entry := by
  intro member rest ends
  have written : Bytes.ofChars (memberLine depth member.entry) ++ rest =
      Bytes.ofChars (lineBreak depth) ++
        Quoted.quote :: (Bytes.ofChars (member.key.toList.flatMap escape) ++
          Quoted.quote :: 0x3A :: 0x20 :: (Bytes.ofChars member.text ++ rest)) := by
    simp only [memberLine, Member.entry, Bytes.ofChars_append, Quoted.ofChars_stringText,
      Bytes.ofChars_cons, List.append_assoc, List.cons_append, List.nil_append]
    rfl
  have blank (after : Bytes) : tokens (0x20 :: after) = tokens after :=
    tokens_spaces (List.forall_mem_singleton.mpr rfl) after
  rw [written, tokens_spaces (isSpaces_lineBreak depth), tokens_quoted, tokens_mark .colon rfl rfl,
    blank, member.spells rest ends]
  rfl

theorem isSpaces_closingBreak (depth : Nat) (members : List (String × List Char)) :
    IsSpaces (Bytes.ofChars (closingBreak depth members)) := by
  cases members with
  | nil => exact List.forall_mem_nil _
  | cons member members => exact isSpaces_lineBreak depth

/-- The indented form of an object spells the tokens of its members. -/
theorem spellsTokens_objectLines (depth : Nat) (members : List Member) :
    SpellsTokens (Bytes.ofChars (objectLines depth (members.map Member.entry)))
      (objectTokens members) := by
  have written : Bytes.ofChars (objectLines depth (members.map Member.entry)) =
      0x7B :: (Bytes.ofChars (commaSeparated (members.map fun member =>
        memberLine (depth + 1) member.entry)) ++
          (Bytes.ofChars (closingBreak depth (members.map Member.entry)) ++ [0x7D])) := by
    rw [objectLines, List.map_map, Bytes.ofChars_append, Bytes.ofChars_append, Bytes.ofChars_cons,
      List.append_assoc, List.append_assoc]
    rfl
  rw [written]
  exact spellsTokens_bracketed (writesMembers_memberLine _) members (isSpaces_closingBreak depth _)

end RemoteTail.Json

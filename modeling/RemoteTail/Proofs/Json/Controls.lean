import RemoteTail.Proofs.Json.Numerals
import RemoteTail.Proofs.Json.Quoted

/-!
# JSON texts without controls

What is written as JSON holds no character below U+0020: strings escape these
characters, and a compact text has no white space.  So none of its octets ends a
line, whatever its strings are (`FreeOfControls.newline_not_mem`).
-/

namespace RemoteTail.Json

/-- Whether a text holds no control below U+0020. -/
def FreeOfControls (text : List Char) : Prop :=
  ∀ c ∈ text, 0x20 ≤ c.toNat

namespace FreeOfControls

variable {text first second : List Char} {c : Char}

theorem cons (shown : 0x20 ≤ c.toNat) (rest : FreeOfControls text) : FreeOfControls (c :: text) :=
  List.forall_mem_cons.mpr ⟨shown, rest⟩

theorem append (before : FreeOfControls first) (behind : FreeOfControls second) :
    FreeOfControls (first ++ second) :=
  List.forall_mem_append.mpr ⟨before, behind⟩

/-- A text without controls has no octet below 0x20. -/
theorem le_of_mem_ofChars (free : FreeOfControls text) :
    ∀ octet ∈ Bytes.ofChars text, 0x20 ≤ octet := by
  intro octet member
  obtain ⟨c, among, member⟩ := List.mem_flatMap.mp member
  by_cases low : c.toNat < 0x80
  · rw [Quoted.encoded_of_lt low, List.mem_singleton] at member
    rw [member, UInt8.le_iff_toNat_le, Utf8.toNat_ofNat (by omega)]
    exact free c among
  · exact UInt8.le_trans (by decide) (Quoted.le_of_mem_encoded low octet member)

theorem newline_not_mem (free : FreeOfControls text) : newline ∉ Bytes.ofChars text :=
  fun member => absurd (free.le_of_mem_ofChars _ member) (by decide)

end FreeOfControls

theorem freeOfControls_escape (c : Char) : FreeOfControls (escape c) := by
  have hex {value : Nat} (small : value < 16) : 0x20 ≤ (hexDigit value).toNat := by
    interval_cases value <;> decide
  fun_cases escape c with
  | case8 c _ _ _ _ _ _ _ control =>
      have high : 0x20 ≤ (hexDigit (c.toNat / 16)).toNat := hex (by omega)
      have low : 0x20 ≤ (hexDigit (c.toNat % 16)).toNat := hex (by omega)
      simp [FreeOfControls, high, low]
  | case9 c _ _ _ _ _ _ _ no_control =>
      exact List.forall_mem_singleton.mpr (Nat.le_of_not_lt no_control)
  | _ => simp [FreeOfControls]

theorem freeOfControls_stringText (text : List Char) : FreeOfControls (stringText text) := by
  have escaped : FreeOfControls (text.flatMap escape) := by
    intro c member
    obtain ⟨d, _, member⟩ := List.mem_flatMap.mp member
    exact freeOfControls_escape d c member
  have quote : 0x20 ≤ '"'.toNat := by decide
  exact (escaped.cons quote).append (List.forall_mem_singleton.mpr quote)

theorem freeOfControls_digits (value : Nat) : FreeOfControls (Decimal.digits value) := by
  intro c member
  have digit := Decimal.isDigit_of_mem_digits value c member
  simp only [Decimal.isDigit, Bool.and_eq_true, decide_eq_true_eq] at digit
  exact Nat.le_trans (by decide) digit.1

theorem freeOfControls_commaSeparated {items : List (List Char)}
    (free : ∀ item ∈ items, FreeOfControls item) : FreeOfControls (commaSeparated items) := by
  fun_induction commaSeparated items with
  | case1 => exact List.forall_mem_nil _
  | case2 item => exact free item (List.mem_singleton_self item)
  | case3 item items _ ih =>
      obtain ⟨first, others⟩ := List.forall_mem_cons.mp free
      exact first.append ((ih others).cons (by decide))

/-- An object holds no controls if the texts of its values hold none. -/
theorem freeOfControls_objectText {members : List (String × List Char)}
    (free : ∀ member ∈ members, FreeOfControls member.2) :
    FreeOfControls (objectText members) := by
  have items : ∀ item ∈ members.map (fun entry => stringText entry.1.toList ++ ':' :: entry.2),
      FreeOfControls item := by
    intro item among
    obtain ⟨member, written, rfl⟩ := List.mem_map.mp among
    exact (freeOfControls_stringText _).append ((free member written).cons (by decide))
  exact ((freeOfControls_commaSeparated items).cons (by decide)).append
    (List.forall_mem_singleton.mpr (by decide))

end RemoteTail.Json

import RemoteTail.Proofs.Text.Decoding
import RemoteTail.TextMap

/-!
# The order of texts and of their octets

UTF-8 keeps the order of texts: what comes first by its characters comes first by
its octets (`Bytes.ofString_lt`).
-/

namespace RemoteTail

namespace Utf8

theorem ofNat_cons_lt_iff {low high : Nat} (small : low < 256) (other_small : high < 256)
    {left right : Bytes} :
    UInt8.ofNat low :: left < UInt8.ofNat high :: right ↔
      low < high ∨ low = high ∧ left < right := by
  rw [List.cons_lt_cons_iff, UInt8.lt_iff_toNat_lt, ← UInt8.toNat_inj, toNat_ofNat small,
    toNat_ofNat other_small]

/-- The octets of a character that comes first come first, whatever follows them. -/
theorem encoded_append_lt {c d : Char} (less : c < d) (left right : Bytes) :
    String.utf8EncodeChar c ++ left < String.utf8EncodeChar d ++ right := by
  have values : c.val.toNat < d.val.toNat := UInt32.lt_iff_toNat_lt.mp less
  have scalar : d.val.toNat < 0x110000 := by
    have valid := d.valid
    unfold UInt32.isValidChar Nat.isValidChar at valid
    omega
  -- Fewer octets begin with a smaller one.  Among as many octets, the first that differs decides.
  fun_cases String.utf8EncodeChar c with
  | case1 v single =>
      fun_cases String.utf8EncodeChar d with
      | _ =>
          simp (disch := omega) only [List.cons_append, List.nil_append, ofNat_cons_lt_iff]
          omega
  | case2 v _ two =>
      fun_cases String.utf8EncodeChar d with
      | case1 => omega
      | case2 | case3 | case4 =>
          simp (disch := omega) only [List.cons_append, List.nil_append, ofNat_cons_lt_iff]
          omega
  | case3 v _ _ three =>
      fun_cases String.utf8EncodeChar d with
      | case1 | case2 => omega
      | case3 w =>
          simp (disch := omega) only [List.cons_append, List.nil_append, ofNat_cons_lt_iff]
          by_cases first : v / 4096 < w / 4096
          · omega
          by_cases second : v / 64 < w / 64
          · omega
          · omega
      | case4 =>
          simp (disch := omega) only [List.cons_append, List.nil_append, ofNat_cons_lt_iff]
          omega
  | case4 v _ _ four =>
      fun_cases String.utf8EncodeChar d with
      | case4 w =>
          simp (disch := omega) only [List.cons_append, List.nil_append, ofNat_cons_lt_iff]
          by_cases first : v / 262144 < w / 262144
          · omega
          by_cases second : v / 4096 < w / 4096
          · omega
          by_cases third : v / 64 < w / 64
          · omega
          · omega
      | case1 | case2 | case3 => omega

end Utf8

namespace Bytes

theorem ofChars_lt {left right : List Char} (less : left < right) :
    ofChars left < ofChars right := by
  induction left generalizing right with
  | nil =>
      cases right with
      | nil => cases less
      | cons d right =>
          have some_octet := Utf8.length_encoded_pos d
          cases encoded : ofChars (d :: right) with
          | nil =>
              rw [ofChars_cons, List.append_eq_nil_iff] at encoded
              rw [encoded.1] at some_octet
              cases some_octet
          | cons => exact List.nil_lt_cons _ _
  | cons c left ih =>
      cases right with
      | nil => cases less
      | cons d right =>
          rcases List.cons_lt_cons_iff.mp less with first | ⟨rfl, others⟩
          · exact Utf8.encoded_append_lt first _ _
          · exact List.append_left_lt (ih others)

/-- A text that comes first has octets that come first. -/
theorem ofString_lt {left right : String} (less : left < right) : ofString left < ofString right :=
  ofChars_lt (String.lt_iff.mp less)

end Bytes

/-- The entries of a map stand in the order of the octets of their keys. -/
theorem TextMap.pairwise_octets (map : TextMap) :
    map.entries.Pairwise fun left right => Bytes.ofString left.1 < Bytes.ofString right.1 :=
  map.sorted.imp Bytes.ofString_lt

end RemoteTail

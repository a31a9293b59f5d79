import RemoteTail.Text.Utf8

/-!
# Character boundaries

In UTF-8 text a character may begin at every position whose octet is not a
continuation, and at the end.  These are the positions between characters
(`isBoundary_iff_betweenChars`).  They are never far apart
(`IsText.exists_boundary_le`, `IsText.exists_boundary_ge`), an octet below 0x80, such
as the terminator, is followed by one (`IsText.isBoundary_succ`), and text that is
appended keeps those that are there (`IsBoundary.append`).  Between boundaries there is
text again (`IsText.slice`).
-/

namespace RemoteTail.Utf8

/-- Whether the octets are the UTF-8 octets of a text. -/
def IsText (bytes : Bytes) : Prop :=
  ∃ text, bytes = Bytes.ofChars text

/-- Whether a character may begin at a position; the end and everything beyond counts. -/
def IsBoundary (bytes : Bytes) (position : Nat) : Prop :=
  ∀ octet ∈ bytes[position]?, isContinuation octet = false

theorem isBoundary_of_length_le {bytes : Bytes} {position : Nat}
    (beyond : bytes.length ≤ position) : IsBoundary bytes position := by
  intro octet found
  rw [List.getElem?_eq_none beyond] at found
  cases found

/-- An octet below 0x80 continues no character. -/
theorem isBoundary_of_low {bytes : Bytes} {position : Nat} {octet : UInt8} (low : octet < 0x80)
    (found : bytes[position]? = some octet) : IsBoundary bytes position := by
  have not_high : ¬ (0x80 : UInt8) ≤ octet := UInt8.not_le.mpr low
  rw [IsBoundary, found]
  rintro _ ⟨⟩
  simp [isContinuation, not_high]

theorem newline_low : newline < 0x80 := by
  decide

theorem isBoundary_append_add (first second : Bytes) (position : Nat) :
    IsBoundary (first ++ second) (first.length + position) ↔ IsBoundary second position := by
  rw [IsBoundary, IsBoundary, List.getElem?_append_right (Nat.le_add_right ..),
    Nat.add_sub_cancel_left]

/-! ## One character -/

theorem length_encoded_pos (c : Char) : 0 < (String.utf8EncodeChar c).length := by
  rw [String.length_utf8EncodeChar]
  exact c.utf8Size_pos

theorem length_encoded_le (c : Char) : (String.utf8EncodeChar c).length ≤ 4 := by
  rw [String.length_utf8EncodeChar]
  exact c.utf8Size_le_four

theorem le_ofNat (low : Nat) {value : Nat} (small : value < 256) (above : low ≤ value) :
    UInt8.ofNat low ≤ UInt8.ofNat value := by
  rw [UInt8.le_iff_toNat_le, UInt8.toNat_ofNat', UInt8.toNat_ofNat']
  omega

/-- A character is one octet below 0x80, or a leading octet followed by octets from 0x80 on. -/
theorem encoded_cases (c : Char) :
    (∃ octet < 0x80, String.utf8EncodeChar c = [octet]) ∨
      ∃ first rest, String.utf8EncodeChar c = first :: rest ∧ 0xC0 ≤ first ∧
        ∀ octet ∈ rest, 0x80 ≤ octet := by
  fun_cases String.utf8EncodeChar c with
  | case1 =>
      refine .inl ⟨_, ?_, rfl⟩
      rw [UInt8.lt_iff_toNat_lt, UInt8.toNat_ofNat']
      change _ < 128
      omega
  | case2 =>
      refine .inr ⟨_, _, rfl, le_ofNat 0xC0 (by omega) (by omega), ?_⟩
      simp only [List.forall_mem_cons, List.not_mem_nil, false_implies, implies_true, and_true]
      exact le_ofNat 0x80 (by omega) (by omega)
  | case3 =>
      refine .inr ⟨_, _, rfl, le_ofNat 0xC0 (by omega) (by omega), ?_⟩
      simp only [List.forall_mem_cons, List.not_mem_nil, false_implies, implies_true, and_true]
      constructor
      · exact le_ofNat 0x80 (by omega) (by omega)
      · exact le_ofNat 0x80 (by omega) (by omega)
  | case4 =>
      refine .inr ⟨_, _, rfl, le_ofNat 0xC0 (by omega) (by omega), ?_⟩
      simp only [List.forall_mem_cons, List.not_mem_nil, false_implies, implies_true, and_true]
      constructor
      · exact le_ofNat 0x80 (by omega) (by omega)
      · constructor
        · exact le_ofNat 0x80 (by omega) (by omega)
        · exact le_ofNat 0x80 (by omega) (by omega)

/-- No character begins with a continuation. -/
theorem isBoundary_encoded_append (c : Char) (bytes : Bytes) :
    IsBoundary (String.utf8EncodeChar c ++ bytes) 0 := by
  rcases encoded_cases c with ⟨single, low, encoded⟩ | ⟨first, rest, encoded, high, _⟩
  · rw [encoded]
    exact isBoundary_of_low low rfl
  · rw [encoded]
    rintro _ ⟨⟩
    have not_low : ¬ first < (0xC0 : UInt8) := UInt8.not_lt.mpr high
    simp [isContinuation, not_low]

/-- An octet below 0x80 is encoded on its own. -/
theorem encoded_eq_of_mem_of_low {c : Char} {octet : UInt8} (low : octet < 0x80)
    (found : octet ∈ String.utf8EncodeChar c) : String.utf8EncodeChar c = [octet] := by
  rcases encoded_cases c with ⟨single, _, encoded⟩ | ⟨first, rest, encoded, high, others⟩
  · rw [encoded] at found ⊢
    rw [List.mem_singleton.mp found]
  · rw [encoded] at found
    have least : (0x80 : UInt8) ≤ octet := by
      rcases List.mem_cons.mp found with rfl | member
      · exact UInt8.le_trans (by decide) high
      · exact others octet member
    exact absurd low (UInt8.not_lt.mpr least)

theorem isContinuation_ofNat {value : Nat} (above : 0x80 ≤ value) (below : value < 0xC0) :
    isContinuation (UInt8.ofNat value) = true := by
  simp only [isContinuation, Bool.and_eq_true, decide_eq_true_eq]
  constructor
  · exact le_ofNat 0x80 (by omega) above
  · rw [UInt8.lt_iff_toNat_lt, UInt8.toNat_ofNat']
    change _ < 192
    omega

/-- All octets of a character but its first are continuations. -/
theorem isContinuation_tail (c : Char) :
    ∀ octet ∈ (String.utf8EncodeChar c).tail, isContinuation octet = true := by
  fun_cases String.utf8EncodeChar c with
  | case1 =>
      intro octet member
      cases member
  | case2 =>
      simp only [List.tail_cons, List.forall_mem_cons, List.not_mem_nil, false_implies,
        implies_true, and_true]
      exact isContinuation_ofNat (by omega) (by omega)
  | case3 =>
      simp only [List.tail_cons, List.forall_mem_cons, List.not_mem_nil, false_implies,
        implies_true, and_true]
      constructor
      · exact isContinuation_ofNat (by omega) (by omega)
      · exact isContinuation_ofNat (by omega) (by omega)
  | case4 =>
      simp only [List.tail_cons, List.forall_mem_cons, List.not_mem_nil, false_implies,
        implies_true, and_true]
      refine ⟨?_, ?_, ?_⟩
      · exact isContinuation_ofNat (by omega) (by omega)
      · exact isContinuation_ofNat (by omega) (by omega)
      · exact isContinuation_ofNat (by omega) (by omega)

/-- The first position after a character's beginning where another may begin is its end. -/
theorem length_encoded_le_of_isBoundary {c : Char} {bytes : Bytes} {position : Nat}
    (positive : 0 < position)
    (boundary : IsBoundary (String.utf8EncodeChar c ++ bytes) position) :
    (String.utf8EncodeChar c).length ≤ position := by
  apply Nat.le_of_not_lt
  intro inside
  have found : (String.utf8EncodeChar c)[position]? = some (String.utf8EncodeChar c)[position] :=
    List.getElem?_eq_getElem inside
  have member : (String.utf8EncodeChar c)[position] ∈ (String.utf8EncodeChar c).tail := by
    obtain ⟨index, rfl⟩ := Nat.exists_eq_add_one_of_ne_zero (Nat.ne_of_gt positive)
    rw [← List.getElem?_tail] at found
    exact List.mem_of_getElem? found
  have apart := boundary _ (by rw [List.getElem?_append_left inside]; exact found)
  rw [isContinuation_tail c _ member] at apart
  cases apart

/-! ## Texts -/

theorem isBoundary_zero {bytes : Bytes} (isText : IsText bytes) : IsBoundary bytes 0 := by
  obtain ⟨text, rfl⟩ := isText
  cases text with
  | nil => exact isBoundary_of_length_le (Nat.le_refl _)
  | cons c text => exact isBoundary_encoded_append c _

theorem IsText.append {first second : Bytes} (firstText : IsText first)
    (secondText : IsText second) : IsText (first ++ second) := by
  obtain ⟨text, rfl⟩ := firstText
  obtain ⟨more, rfl⟩ := secondText
  exact ⟨text ++ more, (Bytes.ofChars_append text more).symm⟩

theorem IsText.flatMap {α : Type} {parts : List α} {write : α → Bytes}
    (partText : ∀ part ∈ parts, IsText (write part)) : IsText (parts.flatMap write) := by
  induction parts with
  | nil => exact ⟨[], rfl⟩
  | cons part parts ih =>
      rw [List.flatMap_cons]
      apply IsText.append (partText part List.mem_cons_self)
      exact ih fun other member => partText other (List.mem_cons_of_mem part member)

/-- Appended text keeps the boundaries. -/
theorem IsBoundary.append {bytes more : Bytes} {position : Nat}
    (boundary : IsBoundary bytes position) (inside : position ≤ bytes.length)
    (moreText : IsText more) : IsBoundary (bytes ++ more) position := by
  rcases Nat.eq_or_lt_of_le inside with rfl | inside
  · exact (isBoundary_append_add bytes more 0).mpr (isBoundary_zero moreText)
  · rw [IsBoundary, List.getElem?_append_left inside]
    exact boundary

/-- An octet below 0x80 is a character of its own, so a boundary follows it. -/
theorem IsText.isBoundary_succ {bytes : Bytes} (isText : IsText bytes) {position : Nat}
    {octet : UInt8} (low : octet < 0x80) (found : bytes[position]? = some octet) :
    IsBoundary bytes (position + 1) := by
  obtain ⟨text, rfl⟩ := isText
  induction text generalizing position with
  | nil => cases found
  | cons c text ih =>
      rw [Bytes.ofChars_cons] at found ⊢
      by_cases inside : position < (String.utf8EncodeChar c).length
      · rw [List.getElem?_append_left inside] at found
        have alone := encoded_eq_of_mem_of_low low (List.mem_of_getElem? found)
        rw [alone, List.length_singleton] at inside
        obtain rfl : position = 0 := by omega
        rw [alone]
        exact (isBoundary_append_add [octet] (Bytes.ofChars text) 0).mpr
          (isBoundary_zero ⟨text, rfl⟩)
      · obtain ⟨index, rfl⟩ := Nat.exists_eq_add_of_le (Nat.le_of_not_lt inside)
        rw [List.getElem?_append_right (Nat.le_add_right ..), Nat.add_sub_cancel_left] at found
        rw [Nat.add_assoc]
        exact (isBoundary_append_add ..).mpr (ih found)

/-- Whether a position in the octets of a text is between two characters, or before the first or
after the last. -/
def BetweenChars (text : List Char) (position : Nat) : Prop :=
  ∃ before after, text = before ++ after ∧ (Bytes.ofChars before).length = position

theorem BetweenChars.le_length {text : List Char} {position : Nat}
    (between : BetweenChars text position) : position ≤ (Bytes.ofChars text).length := by
  obtain ⟨before, after, rfl, rfl⟩ := between
  rw [Bytes.ofChars_append, List.length_append]
  exact Nat.le_add_right ..

/-- The boundaries of a text, up to its end, are the positions between its characters. -/
theorem isBoundary_iff_betweenChars {text : List Char} {position : Nat}
    (inside : position ≤ (Bytes.ofChars text).length) :
    IsBoundary (Bytes.ofChars text) position ↔ BetweenChars text position := by
  constructor
  · intro boundary
    induction text generalizing position with
    | nil => exact ⟨[], [], rfl, (Nat.le_zero.mp inside).symm⟩
    | cons c text ih =>
        rcases Nat.eq_zero_or_pos position with rfl | positive
        · exact ⟨[], c :: text, rfl, rfl⟩
        · -- The boundary is not inside the first character, so it is one of the rest.
          rw [Bytes.ofChars_cons] at boundary inside
          obtain ⟨index, rfl⟩ :=
            Nat.exists_eq_add_of_le (length_encoded_le_of_isBoundary positive boundary)
          rw [List.length_append, Nat.add_le_add_iff_left] at inside
          obtain ⟨before, after, rfl, rfl⟩ := ih inside ((isBoundary_append_add ..).mp boundary)
          exact ⟨c :: before, after, rfl, List.length_append⟩
  · rintro ⟨before, after, rfl, rfl⟩
    rw [Bytes.ofChars_append]
    exact (isBoundary_append_add _ _ 0).mpr (isBoundary_zero ⟨after, rfl⟩)

/-- A text divides into texts at every boundary. -/
theorem IsText.divide {bytes : Bytes} (isText : IsText bytes) {position : Nat}
    (boundary : IsBoundary bytes position) :
    IsText (bytes.take position) ∧ IsText (bytes.drop position) := by
  obtain ⟨text, rfl⟩ := isText
  by_cases inside : position ≤ (Bytes.ofChars text).length
  · obtain ⟨before, after, rfl, rfl⟩ := (isBoundary_iff_betweenChars inside).mp boundary
    rw [Bytes.ofChars_append, List.take_left, List.drop_left]
    exact ⟨⟨before, rfl⟩, ⟨after, rfl⟩⟩
  · have beyond := Nat.le_of_not_le inside
    rw [List.take_of_length_le beyond, List.drop_eq_nil_of_le beyond]
    exact ⟨⟨text, rfl⟩, ⟨[], rfl⟩⟩

/-- Between boundaries there is text. -/
theorem IsText.slice {bytes : Bytes} (isText : IsText bytes) {start stop : Nat}
    (begins : IsBoundary bytes start) (ends : IsBoundary bytes stop) (before : start ≤ stop) :
    IsText (bytes.slice start stop) := by
  have rest := (isText.divide begins).2
  apply (rest.divide _).1
  rwa [IsBoundary, List.getElem?_drop, Nat.add_sub_cancel' before]

/-- Up to every position there is a boundary at most three octets before. -/
theorem IsText.exists_boundary_le {bytes : Bytes} (isText : IsText bytes) {position : Nat}
    (inside : position ≤ bytes.length) :
    ∃ boundary ≤ position, position ≤ boundary + 3 ∧ IsBoundary bytes boundary := by
  obtain ⟨text, rfl⟩ := isText
  induction text generalizing position with
  | nil =>
      refine ⟨0, Nat.zero_le _, ?_, isBoundary_zero ⟨[], rfl⟩⟩
      exact Nat.le_trans inside (Nat.zero_le _)
  | cons c text ih =>
      rw [Bytes.ofChars_cons] at inside ⊢
      by_cases first : position < (String.utf8EncodeChar c).length
      · have short := length_encoded_le c
        refine ⟨0, Nat.zero_le _, by omega, isBoundary_encoded_append c _⟩
      · obtain ⟨index, rfl⟩ := Nat.exists_eq_add_of_le (Nat.le_of_not_lt first)
        rw [List.length_append] at inside
        have rest_inside : index ≤ (Bytes.ofChars text).length := by omega
        obtain ⟨boundary, before, near, isBoundary⟩ := ih rest_inside
        refine ⟨_, Nat.add_le_add_left before _, by omega, ?_⟩
        exact (isBoundary_append_add ..).mpr isBoundary

/-- From every position there is a boundary at most three octets on. -/
theorem IsText.exists_boundary_ge {bytes : Bytes} (isText : IsText bytes) {position : Nat}
    (inside : position ≤ bytes.length) :
    ∃ boundary, position ≤ boundary ∧ boundary ≤ position + 3 ∧ boundary ≤ bytes.length ∧
      IsBoundary bytes boundary := by
  by_cases within : position + 3 ≤ bytes.length
  · obtain ⟨boundary, before, near, isBoundary⟩ := isText.exists_boundary_le within
    exact ⟨boundary, by omega, before, by omega, isBoundary⟩
  · exact ⟨bytes.length, inside, by omega, Nat.le_refl _, isBoundary_of_length_le (Nat.le_refl _)⟩

end RemoteTail.Utf8
